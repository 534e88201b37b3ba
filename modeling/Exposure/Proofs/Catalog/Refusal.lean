import Exposure.Proofs.Catalog.Sound

/-!
# Why an entity is refused

Three things are asked of a new entity, and the first that fails is the answer: its name must not be
taken, its scope must be known, and its access level must fit.  This file says of each refusal when
it is given.
-/

namespace Exposure

/-- What is wrong with an access level, by the kind of an entity and by whether it is in a class. -/
inductive AccessProblem.Arises (kind : EntityKind) (access : Access) (inClass : Prop) :
    AccessProblem → Prop where
  | outsideClass (hkind : kind.isMember = true) (hin : ¬ inClass) :
      Arises kind access inClass (.outsideClass kind)
  | levelMissing (hin : inClass) (haccess : access = .notApplicable) :
      Arises kind access inClass .levelMissing
  | levelUnexpected (hkind : kind.isMember = false) (hin : ¬ inClass)
      (haccess : access.isSpecifier = true) : Arises kind access inClass (.levelUnexpected access)

namespace Catalog

variable {c : Catalog} {e : Entity} {s : EntityId} {q : QualifiedName} {err : CatalogError}
  {problem : AccessProblem}

theorem accessProblem?_eq_some_iff (kind : EntityKind) (access : Access) (inClass : Bool) :
    accessProblem? kind access inClass = some problem ↔
      problem.Arises kind access (inClass = true) := by
  constructor
  · intro h
    unfold accessProblem? at h
    split_ifs at h with houtside hmissing hunexpected
    · obtain rfl := Option.some.inj h
      simp only [Bool.and_eq_true, Bool.not_eq_true'] at houtside
      exact .outsideClass houtside.1 (Bool.not_eq_true _ ▸ houtside.2)
    · obtain rfl := Option.some.inj h
      simp only [Bool.and_eq_true, Bool.not_eq_true', Access.isSpecifier_eq_false_iff] at hmissing
      exact .levelMissing hmissing.1 hmissing.2
    · obtain rfl := Option.some.inj h
      simp only [Bool.and_eq_true, Bool.not_eq_true'] at houtside hunexpected
      refine .levelUnexpected ?_ (Bool.not_eq_true _ ▸ hunexpected.1) hunexpected.2
      exact Bool.eq_false_iff.mpr fun hk => houtside ⟨hk, hunexpected.1⟩
  · unfold accessProblem?
    rintro (⟨hkind, hin⟩ | ⟨hin, haccess⟩ | ⟨hkind, hin, haccess⟩)
    · simp [hkind, hin]
    · simp [hin, haccess, Access.isSpecifier]
    · simp [hkind, hin, haccess]

/-- Nothing is wrong with an access level when none of the problems arises. -/
theorem exists_arises_iff {kind : EntityKind} {access : Access} {inClass : Prop} :
    (∃ problem : AccessProblem, problem.Arises kind access inClass) ↔
      kind.isMember = true ∧ ¬ inClass ∨ inClass ∧ access = .notApplicable ∨
        ¬ inClass ∧ access.isSpecifier = true := by
  constructor
  · rintro ⟨problem, ⟨hkind, hin⟩ | ⟨hin, haccess⟩ | ⟨hkind, hin, haccess⟩⟩
    · exact .inl ⟨hkind, hin⟩
    · exact .inr (.inl ⟨hin, haccess⟩)
    · exact .inr (.inr ⟨hin, haccess⟩)
  · rintro (⟨hkind, hin⟩ | ⟨hin, haccess⟩ | ⟨hin, haccess⟩)
    · exact ⟨_, .outsideClass hkind hin⟩
    · exact ⟨_, .levelMissing hin haccess⟩
    · cases hkind : kind.isMember with
      | true => exact ⟨_, .outsideClass hkind hin⟩
      | false => exact ⟨_, .levelUnexpected hkind hin haccess⟩

/-! ## The three checks -/

/-- A name belongs to an entity already. -/
def Taken (c : Catalog) (q : QualifiedName) : Prop := ∃ x ∈ c.entities, x.name = q

theorem Sound.contains_iff (hc : c.Sound) : c.index.contains q = true ↔ c.Taken q := by
  rw [NameIndex.contains, Option.isSome_iff_exists]
  constructor
  · rintro ⟨i, hi⟩
    obtain ⟨x, hx, hname⟩ := hc.lookup_eq_some_iff.mp hi
    exact ⟨x, List.mem_of_getElem? hx, hname⟩
  · rintro ⟨x, hx, hname⟩
    obtain ⟨i, hi⟩ := List.mem_iff_getElem?.mp hx
    exact ⟨i, hc.lookup_eq_some_iff.mpr ⟨x, hi, hname⟩⟩

/-- What an entity is refused for: the first check that fails. -/
inductive Refuses (c : Catalog) (e : Entity) : CatalogError → Prop where
  | duplicateEntity (hname : c.Taken e.name) : Refuses c e (.duplicateEntity e.name)
  | unknownScope {s : EntityId} (hname : ¬ c.Taken e.name) (hs : e.scope = some s)
      (hget : c.get? s = none) : Refuses c e (.unknownScope e.name (.id s))
  | invalidAccess {problem : AccessProblem} (hname : ¬ c.Taken e.name)
      (hscope : ∀ s, e.scope = some s → s < c.size)
      (haccess : problem.Arises e.kind e.access (e.InClass c.entities)) :
      Refuses c e (.invalidAccess e.name problem)

theorem refusal?_of_unknown (hname : ¬ c.index.contains e.name = true) (hs : e.scope = some s)
    (hget : c.get? s = none) : c.refusal? e = some (.unknownScope e.name (.id s)) := by
  rw [refusal?, if_neg hname, hs]
  simp only [hget]

theorem refusal?_of_known (hname : ¬ c.index.contains e.name = true)
    (hscope : ∀ s, e.scope = some s → s < c.size) :
    c.refusal? e = (accessProblem? e.kind e.access (c.inClass e)).map (.invalidAccess e.name) := by
  rw [refusal?, if_neg hname, inClass]
  cases hs : e.scope with
  | none => rfl
  | some s =>
      obtain ⟨p, hp⟩ := lt_size_iff.mp (hscope s hs)
      simp only [hp, Option.bind_some, Option.any_some]

/-- A scope is known or it has an id that no entity has. -/
theorem scope_known_or (c : Catalog) (e : Entity) :
    (∀ s, e.scope = some s → s < c.size) ∨ ∃ s, e.scope = some s ∧ c.get? s = none := by
  cases hs : e.scope with
  | none => exact .inl nofun
  | some s =>
      cases hp : c.get? s with
      | none => exact .inr ⟨s, rfl, hp⟩
      | some p =>
          refine .inl fun s' hs' => ?_
          obtain rfl := Option.some.inj hs'
          exact lt_size_iff.mpr ⟨p, hp⟩

/-- The refusal of an entity is the first check that fails. -/
theorem Sound.refusal?_eq_some_iff (hc : c.Sound) : c.refusal? e = some err ↔ c.Refuses e err := by
  constructor
  · intro h
    by_cases hname : c.index.contains e.name = true
    · rw [refusal?, if_pos hname] at h
      obtain rfl := Option.some.inj h
      exact .duplicateEntity (hc.contains_iff.mp hname)
    · have hfresh := mt hc.contains_iff.mpr hname
      rcases c.scope_known_or e with hscope | ⟨s, hs, hget⟩
      · rw [refusal?_of_known hname hscope, Option.map_eq_some_iff] at h
        obtain ⟨problem, hproblem, rfl⟩ := h
        rw [accessProblem?_eq_some_iff, inClass_eq_true_iff] at hproblem
        exact .invalidAccess hfresh hscope hproblem
      · rw [refusal?_of_unknown hname hs hget] at h
        obtain rfl := Option.some.inj h
        exact .unknownScope hfresh hs hget
  · rintro (hname | ⟨hname, hs, hget⟩ | ⟨hname, hscope, haccess⟩)
    · rw [refusal?, if_pos (hc.contains_iff.mpr hname)]
    · exact refusal?_of_unknown (mt hc.contains_iff.mp hname) hs hget
    · rw [refusal?_of_known (mt hc.contains_iff.mp hname) hscope, Option.map_eq_some_iff]
      refine ⟨_, ?_, rfl⟩
      rwa [accessProblem?_eq_some_iff, inClass_eq_true_iff]

theorem Sound.add_eq_error_iff (hc : c.Sound) : c.add e = .error err ↔ c.Refuses e err := by
  rw [Catalog.add_eq_error_iff, hc.refusal?_eq_some_iff]

end Catalog

end Exposure
