import Exposure.Proofs.Catalog.Acceptance
import Exposure.Proofs.Catalog.Refusal
import Exposure.Proofs.Catalog.Representation

/-!
# What reading records answers

Records are added one after the other, so the first that does not fit behind the others decides the
answer for all of them.  A record gives its scope by name where an entity has an id, so the scope is
looked up before the entity is there to be checked.  That is why an unknown scope is reported even of
a record with a taken name, while for an entity the name comes first.
-/

namespace Exposure

variable {rs rs' : List EntityRecord} {r : EntityRecord} {err : CatalogError}

/-- What is wrong with a record behind the listed ones: the first check that fails. -/
inductive EntityRecord.FaultAfter (rs : List EntityRecord) (r : EntityRecord) : CatalogError → Prop
  where
  | unknownScope {q : QualifiedName} (hq : r.scope = some q) (hnone : ∀ x ∈ rs, x.name ≠ q) :
      FaultAfter rs r (.unknownScope r.name (.name q))
  | duplicateEntity (hscope : r.ScopeKnown rs) (hname : ∃ x ∈ rs, x.name = r.name) :
      FaultAfter rs r (.duplicateEntity r.name)
  | invalidAccess {problem : AccessProblem} (hscope : r.ScopeKnown rs)
      (hfresh : ∀ x ∈ rs, x.name ≠ r.name)
      (haccess : problem.Arises r.kind r.access (r.InClass rs)) :
      FaultAfter rs r (.invalidAccess r.name problem)

/-- The scope of a record is known or it is the name of none of the listed ones. -/
theorem EntityRecord.scopeKnown_or (rs : List EntityRecord) (r : EntityRecord) :
    r.ScopeKnown rs ∨ ∃ q, r.scope = some q ∧ ∀ x ∈ rs, x.name ≠ q := by
  by_cases h : r.ScopeKnown rs
  · exact .inl h
  · rw [ScopeKnown] at h
    push Not at h
    exact .inr h

/-- What fits, with the kinds and the levels spelled out. -/
theorem EntityRecord.fits_iff :
    r.Fits rs ↔
      (∀ q, r.scope = some q → ∃ x ∈ rs, x.name = q) ∧ (∀ x ∈ rs, x.name ≠ r.name) ∧
      (r.kind = .method ∨ r.kind = .field → r.InClass rs) ∧
      ((r.access = .pub ∨ r.access = .prot ∨ r.access = .priv) ↔ r.InClass rs) := by
  rw [← Catalog.isSpecifier_iff, ← EntityKind.isMember_iff]
  exact ⟨fun h => ⟨h.scope_known, h.fresh, h.access⟩, fun ⟨hscope, hname, haccess⟩ =>
    ⟨hname, hscope, haccess⟩⟩

/-- An acceptable list stays acceptable when its end is cut off. -/
theorem EntityRecord.Acceptable.of_append (h : Acceptable (rs ++ rs')) : Acceptable rs := by
  induction rs' using List.reverseRecOn with
  | nil => rwa [List.append_nil] at h
  | append_singleton rs' x ih =>
      rw [← List.append_assoc, acceptable_concat_iff] at h
      exact ih h.1

/-- Steps that may fail stop at the first that does. -/
theorem foldlM_eq_error_iff {α β ε : Type} {f : β → α → Except ε β} {xs : List α} {b : β} {e : ε} :
    xs.foldlM f b = .error e ↔
      ∃ before x after b',
        xs = before ++ x :: after ∧ before.foldlM f b = .ok b' ∧ f b' x = .error e := by
  constructor
  · intro h
    induction xs generalizing b with
    | nil => cases h
    | cons a xs ih =>
        rw [List.foldlM_cons] at h
        cases ha : f b a with
        | error e' =>
            rw [ha] at h
            obtain rfl := Except.error.inj h
            exact ⟨[], a, xs, b, rfl, rfl, ha⟩
        | ok b₁ =>
            rw [ha] at h
            obtain ⟨before, x, after, b', rfl, hbefore, hx⟩ := ih h
            refine ⟨a :: before, x, after, b', rfl, ?_, hx⟩
            rw [List.foldlM_cons, ha]
            exact hbefore
  · rintro ⟨before, x, after, b', rfl, hbefore, hx⟩
    rw [List.foldlM_append, hbefore]
    change ((x :: after).foldlM f b') = _
    rw [List.foldlM_cons, hx]
    rfl

namespace Catalog

variable {c : Catalog} {e : Entity} {i : EntityId} {q : QualifiedName}

/-! ## One record -/

theorem taken_iff : c.Taken q ↔ ∃ x ∈ c.toRecords, x.name = q := by
  simp only [Taken, toRecords, List.mem_map, exists_exists_and_eq_and]
  rfl

namespace Sound

theorem addRecord_of_unknown (hc : c.Sound) (hq : r.scope = some q)
    (hnone : ∀ x ∈ c.toRecords, x.name ≠ q) :
    c.addRecord r = .error (.unknownScope r.name (.name q)) := by
  have hlookup : c.lookup q = none := by
    rw [← Option.not_isSome_iff_eq_none]
    intro hsome
    obtain ⟨x, hx, hname⟩ := taken_iff.mp (hc.contains_iff.mp hsome)
    exact hnone x hx hname
  simp only [addRecord, hq, hlookup]

/-- An entity whose scope is known is refused for what is wrong with its record. -/
theorem refuses_iff (hc : c.Sound) (hscope : ∀ s, e.scope = some s → s < c.size) :
    c.Refuses e err ↔ (c.recordOf e).FaultAfter c.toRecords err := by
  have hknown := scopeKnown_recordOf c e
  constructor
  · rintro (hname | ⟨-, hs, hget⟩ | ⟨hname, -, haccess⟩)
    · exact .duplicateEntity hknown (taken_iff.mp hname)
    · obtain ⟨p, hp⟩ := lt_size_iff.mp (hscope _ hs)
      rw [hget] at hp
      cases hp
    · refine .invalidAccess hknown (fun x hx hx' => hname (taken_iff.mpr ⟨x, hx, hx'⟩)) ?_
      rwa [hc.inClass_recordOf_iff]
  · rintro (⟨hq, hnone⟩ | ⟨-, hname⟩ | ⟨-, hfresh, haccess⟩)
    · obtain ⟨x, hx, hname⟩ := hknown _ hq
      exact absurd hname (hnone x hx)
    · exact .duplicateEntity (taken_iff.mpr hname)
    · rw [hc.inClass_recordOf_iff] at haccess
      refine .invalidAccess (fun h => ?_) hscope haccess
      obtain ⟨x, hx, hname⟩ := taken_iff.mp h
      exact hfresh x hx hname

/-- A record is refused for what is wrong with it behind the records of the catalog. -/
theorem addRecord_eq_error_iff (hc : c.Sound) :
    c.addRecord r = .error err ↔ r.FaultAfter c.toRecords err := by
  rcases EntityRecord.scopeKnown_or c.toRecords r with hknown | ⟨q, hq, hnone⟩
  · obtain ⟨e, hscope, rfl⟩ := exists_recordOf_eq hknown
    rw [hc.addRecord_recordOf hscope, ← hc.refuses_iff hscope, ← hc.add_eq_error_iff]
    cases c.add e <;> simp [Except.map]
  · rw [hc.addRecord_of_unknown hq hnone]
    constructor
    · intro h
      obtain rfl := Except.error.inj h
      exact .unknownScope hq hnone
    · rintro (⟨hq', -⟩ | ⟨hknown, -⟩ | ⟨hknown, -⟩)
      · obtain rfl := Option.some.inj (hq.symm.trans hq')
        rfl
      · obtain ⟨x, hx, hname⟩ := hknown q hq
        exact absurd hname (hnone x hx)
      · obtain ⟨x, hx, hname⟩ := hknown q hq
        exact absurd hname (hnone x hx)

end Sound

/-! ## A list of records -/

/-- A list that is refused is refused for the first record that does not fit behind the others. -/
theorem ofRecords_eq_error_iff :
    ofRecords rs = .error err ↔
      ∃ before r after,
        rs = before ++ r :: after ∧ (∃ c, ofRecords before = .ok c) ∧ r.FaultAfter before err := by
  rw [ofRecords, foldlM_eq_error_iff]
  constructor
  · rintro ⟨before, r, after, c, rfl, hbefore, hr⟩
    obtain ⟨hc, rfl⟩ := ofRecords_eq_ok_iff.mp hbefore
    exact ⟨_, r, after, rfl, ⟨c, hbefore⟩, hc.addRecord_eq_error_iff.mp hr⟩
  · rintro ⟨before, r, after, rfl, ⟨c, hbefore⟩, hr⟩
    obtain ⟨hc, rfl⟩ := ofRecords_eq_ok_iff.mp hbefore
    exact ⟨_, r, after, c, rfl, hbefore, hc.addRecord_eq_error_iff.mpr hr⟩

/-- The second record has a taken name, but its scope is looked up first. -/
example :
    ofRecords
        [⟨.top "A", .classType, .notApplicable, none⟩,
          ⟨.top "A", .classType, .notApplicable, some (.top "B")⟩] =
      .error (.unknownScope (.top "A") (.name (.top "B"))) := by
  decide +kernel

/-- A list is accepted when every record fits behind those in front of it. -/
theorem exists_ofRecords_iff_forall_fits :
    (∃ c, ofRecords rs = .ok c) ↔
      ∀ before r after, rs = before ++ r :: after → r.Fits before := by
  constructor
  · rintro h before r after rfl
    have hacceptable := exists_ofRecords_iff.mp h
    rw [List.append_cons] at hacceptable
    exact (EntityRecord.acceptable_concat_iff.mp hacceptable.of_append).2
  · intro h
    -- a fault would be that of a record that fits
    cases hrs : ofRecords rs with
    | ok c => exact ⟨c, rfl⟩
    | error err =>
        obtain ⟨before, r, after, hsplit, ⟨c, hbefore⟩, hr⟩ := ofRecords_eq_error_iff.mp hrs
        obtain ⟨hc, rfl⟩ := ofRecords_eq_ok_iff.mp hbefore
        obtain ⟨c', hc'⟩ := hc.exists_addRecord_iff.mpr (h _ r after hsplit)
        rw [hc.addRecord_eq_error_iff.mpr hr] at hc'
        cases hc'

/-- Each record of a sound catalog is that of an entity at its place, with the id of the record that
it names as its scope. -/
theorem Sound.exists_get?_of_toRecords (hc : c.Sound) (hi : c.toRecords[i]? = some r) :
    ∃ e, c.get? i = some e ∧ e.name = r.name ∧ e.kind = r.kind ∧ e.access = r.access ∧
      ∀ s, e.scope = some s ↔
        ∃ x, s < i ∧ c.toRecords[s]? = some x ∧ r.scope = some x.name := by
  rw [toRecords, List.getElem?_map, Option.map_eq_some_iff] at hi
  obtain ⟨e, he, rfl⟩ := hi
  refine ⟨e, he, rfl, rfl, rfl, fun s => ?_⟩
  rw [toRecords, List.getElem?_map]
  constructor
  · intro hs
    have hlt := hc.admissible.scope_lt he hs
    obtain ⟨f, hf⟩ := lt_size_iff.mp (hlt.trans (lt_size_iff.mpr ⟨e, he⟩))
    refine ⟨c.recordOf f, hlt, Option.map_eq_some_iff.mpr ⟨f, hf, rfl⟩, ?_⟩
    exact recordOf_scope_eq_some_iff.mpr ⟨s, f, hs, hf, rfl⟩
  · rintro ⟨x, -, hx, hscope⟩
    obtain ⟨f, hf, rfl⟩ := Option.map_eq_some_iff.mp hx
    obtain ⟨s', g, hs', hg, hname⟩ := recordOf_scope_eq_some_iff.mp hscope
    obtain rfl := hc.admissible.eq_of_name_eq hg hf hname
    exact hs'

/-- Records are read in order, and refused for the first that does not fit behind the others. -/
structure LoadsExactly (rs : List EntityRecord) : Prop where
  /-- The scope of a record comes before it, its name is new, methods and fields are in a class, and
  so is exactly what is public, protected or private. -/
  exists_ok_iff : (∃ c, ofRecords rs = .ok c) ↔
    ∀ before r after, rs = before ++ r :: after →
      (∀ q, r.scope = some q → ∃ x ∈ before, x.name = q) ∧
      (∀ x ∈ before, x.name ≠ r.name) ∧
      (r.kind = .method ∨ r.kind = .field → r.InClass before) ∧
      ((r.access = .pub ∨ r.access = .prot ∨ r.access = .priv) ↔ r.InClass before)
  size_eq : ∀ c, ofRecords rs = .ok c → c.size = rs.length
  get?_eq : ∀ c, ofRecords rs = .ok c → ∀ i r, rs[i]? = some r →
    ∃ e, c.get? i = some e ∧ e.name = r.name ∧ e.kind = r.kind ∧ e.access = r.access ∧
      ∀ s, e.scope = some s ↔ ∃ x, s < i ∧ rs[s]? = some x ∧ r.scope = some x.name
  error_iff : ∀ err, ofRecords rs = .error err ↔
    ∃ before r after,
      rs = before ++ r :: after ∧ (∃ c, ofRecords before = .ok c) ∧ r.FaultAfter before err

theorem ofRecords_loadsExactly (rs : List EntityRecord) : LoadsExactly rs where
  exists_ok_iff := by
    simp only [exists_ofRecords_iff_forall_fits, EntityRecord.fits_iff]
  size_eq c h := by
    obtain ⟨-, rfl⟩ := ofRecords_eq_ok_iff.mp h
    exact c.length_toRecords.symm
  get?_eq c h i r hi := by
    obtain ⟨hc, rfl⟩ := ofRecords_eq_ok_iff.mp h
    exact hc.exists_get?_of_toRecords hi
  error_iff _ := ofRecords_eq_error_iff

end Catalog

end Exposure
