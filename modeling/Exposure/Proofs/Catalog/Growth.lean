import Exposure.Catalog.Builder
import Exposure.Proofs.Catalog.Refusal
import Exposure.Proofs.Catalog.Representation

/-!
# How a catalog grows

A call is refused by the first of its checks that fails, and leaves the catalog as it was.  When all
pass, the new entity stands at the end.  What can be asked of the older entities then has the same
answer as before, and what lies in a scope is listed as before; only the lists of the scopes around
the new entity become longer by its id.
-/

namespace Exposure

/-- The access level of an entity does not go with its kind or its scope. -/
def Entity.Misfits (es : List Entity) (e : Entity) : Prop :=
  (e.kind = .method ∨ e.kind = .field) ∧ ¬ e.InClass es ∨
    e.InClass es ∧ e.access = .notApplicable ∨
      ¬ e.InClass es ∧ (e.access = .pub ∨ e.access = .prot ∨ e.access = .priv)

namespace Catalog

variable {c c' : Catalog} {e : Entity} {i s : EntityId}

/-- An access level misfits when some problem arises with it. -/
theorem misfits_iff : e.Misfits c.entities ↔
    ∃ problem : AccessProblem, problem.Arises e.kind e.access (e.InClass c.entities) := by
  rw [exists_arises_iff, Entity.Misfits, ← isMember_iff, ← isSpecifier_iff, Entity.isMember]

/-- An entity fits when no check fails. -/
theorem fits_iff_not_misfits : e.Fits c.entities ↔
    ¬ c.Taken e.name ∧ (∀ s, e.scope = some s → s < c.size) ∧ ¬ e.Misfits c.entities := by
  rw [misfits_iff, exists_arises_iff]
  constructor
  · intro h
    refine ⟨fun ⟨x, hx, hname⟩ => h.fresh x hx hname, h.scope_lt, ?_⟩
    rintro (⟨hkind, hin⟩ | ⟨hin, haccess⟩ | ⟨hin, haccess⟩)
    · exact hin (h.member hkind)
    · have hlevel := h.access.mpr hin
      rw [haccess] at hlevel
      cases hlevel
    · exact hin (h.access.mp haccess)
  · rintro ⟨hname, hscope, hnone⟩
    refine ⟨fun x hx hx' => hname ⟨x, hx, hx'⟩, hscope, fun hkind => ?_, fun haccess => ?_, ?_⟩
    · exact by_contra fun hin => hnone (.inl ⟨hkind, hin⟩)
    · exact by_contra fun hin => hnone (.inr (.inr ⟨hin, haccess⟩))
    · intro hin
      by_contra haccess
      rw [Bool.not_eq_true, Access.isSpecifier_eq_false_iff] at haccess
      exact hnone (.inr (.inl ⟨hin, haccess⟩))

/-! ## One more entity -/

theorem get?_insert (c : Catalog) (e : Entity) (i : EntityId) :
    (c.insert e).get? i = if i = c.size then some e else c.get? i := by
  rw [get?, get?, entities_insert]
  rcases lt_trichotomy i c.size with hi | rfl | hi
  · rw [List.getElem?_append_left hi, if_neg hi.ne]
  · simp [size]
  · have hlen : (c.entities ++ [e]).length ≤ i := by
      rw [List.length_append, List.length_singleton]
      exact hi
    rw [if_neg hi.ne', List.getElem?_eq_none hlen, List.getElem?_eq_none (le_of_lt hi)]

theorem scope?_insert (c : Catalog) (e : Entity) (i : EntityId) :
    (c.insert e).scope? i = if i = c.size then e.scope else c.scope? i := by
  rw [scope?, get?_insert, scope?]
  split <;> rfl

namespace Sound

/-- What encloses an entity is the same when another one has been put behind it. -/
theorem encloses_insert_of_ne (hc : c.Sound) (hi : i ≠ c.size) :
    (c.insert e).Encloses s i ↔ c.Encloses s i := by
  -- up the scopes, whose ids become smaller and so stay below the new one
  induction i using Nat.strong_induction_on with
  | _ i ih =>
      rw [encloses_iff, @encloses_iff c, scope?_insert, if_neg hi]
      refine exists_congr fun p => and_congr_right fun hp => or_congr_right ?_
      have hlt := hc.scope?_lt hp
      exact ih p hlt (ne_of_lt (hlt.trans (lt_size_of_scope? hp)))

/-- What encloses the new entity is its scope or encloses its scope. -/
theorem encloses_insert_size (hc : c.Sound) (hscope : ∀ s, e.scope = some s → s < c.size) :
    (c.insert e).Encloses s c.size ↔ ∃ p, e.scope = some p ∧ (s = p ∨ c.Encloses s p) := by
  rw [encloses_iff, scope?_insert, if_pos rfl]
  refine exists_congr fun p => and_congr_right fun hp => or_congr_right ?_
  exact hc.encloses_insert_of_ne (ne_of_lt (hscope p hp))

theorem members_insert (hc : c.Sound) (he : e.Fits c.entities) (s : EntityId) :
    (c.insert e).members s = c.members s ++ if e.scope = some s then [c.size] else [] := by
  apply Ascending.eq_concat_of_mem_iff (hc.sortedLT_members s)
    ((hc.insert he).sortedLT_members s)
  · exact fun i hi => lt_size_of_scope? (hc.mem_members.mp hi)
  · intro i
    rw [(hc.insert he).mem_members, hc.mem_members, scope?_insert]
    split_ifs with hi
    · have hnone : c.scope? i ≠ some s := fun h => absurd hi (ne_of_lt (lt_size_of_scope? h))
      rw [or_iff_right hnone, and_iff_right hi]
    · rw [or_iff_left fun h => hi h.1]

theorem membersTransitive_insert (hc : c.Sound) (he : e.Fits c.entities) (s : EntityId) :
    (c.insert e).membersTransitive s =
      c.membersTransitive s ++
        if (c.insert e).isMemberOf? c.size s = some true then [c.size] else [] := by
  apply Ascending.eq_concat_of_mem_iff (hc.sortedLT_membersTransitive s)
    ((hc.insert he).sortedLT_membersTransitive s)
  · exact fun i hi => (hc.mem_membersTransitive.mp hi).lt_size
  · intro i
    rw [(hc.insert he).mem_membersTransitive, hc.mem_membersTransitive,
      (hc.insert he).isMemberOf?_eq_true_iff]
    by_cases hi : i = c.size
    · subst hi
      rw [or_iff_right fun h => lt_irrefl _ h.lt_size, and_iff_right rfl]
    · rw [hc.encloses_insert_of_ne hi, or_iff_left fun h => hi h.1]

/-- The climb gives the same answer where the same is enclosed. -/
theorem isMemberOf?_congr (hc : c.Sound) (hc' : c'.Sound)
    (h : c'.Encloses s i ↔ c.Encloses s i) : c'.isMemberOf? i s = c.isMemberOf? i s := by
  obtain ⟨b, hb, hiff⟩ := hc.exists_isMemberOf? i s
  obtain ⟨b', hb', hiff'⟩ := hc'.exists_isMemberOf? i s
  rw [hb, hb', Option.some.injEq, Bool.eq_iff_iff, hiff, hiff', h]

end Sound

/-- A catalog is another one with an entity behind the others. -/
structure Grown (c : Catalog) (e : Entity) (c' : Catalog) : Prop where
  size_eq : c'.size = c.size + 1
  get?_new : c'.get? c.size = some e
  get?_old : ∀ i < c.size, c'.get? i = c.get? i
  lookup_eq : ∀ q, c'.lookup q = if e.name = q then some c.size else c.lookup q
  /-- Only the scope of the entity has one more member. -/
  members_eq : ∀ s, c'.members s = c.members s ++ if e.scope = some s then [c.size] else []
  /-- Only what encloses the entity has one more below it. -/
  membersTransitive_eq : ∀ s, c'.membersTransitive s =
    c.membersTransitive s ++ if c'.isMemberOf? c.size s = some true then [c.size] else []
  /-- The entity is enclosed by its scope and by what encloses its scope. -/
  isMemberOf?_new : ∀ s, c'.isMemberOf? c.size s = some true ↔
    ∃ p, e.scope = some p ∧ (s = p ∨ c.isMemberOf? p s = some true)
  isMemberOf?_old : ∀ i < c.size, ∀ s, c'.isMemberOf? i s = c.isMemberOf? i s

theorem Sound.grown_insert (hc : c.Sound) (he : e.Fits c.entities) : Grown c e (c.insert e) where
  size_eq := size_insert c e
  get?_new := by rw [get?_insert, if_pos rfl]
  get?_old i hi := by rw [get?_insert, if_neg hi.ne]
  lookup_eq := lookup_insert c e
  members_eq := hc.members_insert he
  membersTransitive_eq := hc.membersTransitive_insert he
  isMemberOf?_new s := by
    rw [(hc.insert he).isMemberOf?_eq_true_iff, hc.encloses_insert_size he.scope_lt]
    simp only [hc.isMemberOf?_eq_true_iff]
  isMemberOf?_old _ hi _ := hc.isMemberOf?_congr (hc.insert he) (hc.encloses_insert_of_ne hi.ne)

/-! ## Calls -/

/-- Calls are answered by the first check that fails, and change the catalog only if none does. -/
structure GrowsExactly (c : Catalog) : Prop where
  duplicateEntity_iff : ∀ e, c.add e = .error (.duplicateEntity e.name) ↔ c.Taken e.name
  unknownScope_iff : ∀ e s, c.add e = .error (.unknownScope e.name (.id s)) ↔
    ¬ c.Taken e.name ∧ e.scope = some s ∧ c.get? s = none
  invalidAccess_iff : ∀ e, (∃ problem, c.add e = .error (.invalidAccess e.name problem)) ↔
    ¬ c.Taken e.name ∧ (∀ s, e.scope = some s → s < c.size) ∧ e.Misfits c.entities
  /-- The problem that is named is the first that arises. -/
  arises_of_invalidAccess : ∀ e problem, c.add e = .error (.invalidAccess e.name problem) →
    problem.Arises e.kind e.access (e.InClass c.entities)
  /-- The id of a new entity is the number of entities before it. -/
  ok_iff : ∀ e, (∃ c', c.add e = .ok (c.size, c')) ↔
    ¬ c.Taken e.name ∧ (∀ s, e.scope = some s → s < c.size) ∧ ¬ e.Misfits c.entities
  addMember_of_unknown : ∀ parent name kind access, c.get? parent = none →
    c.addMember parent name kind access = .error (.unknownScope (.top name) (.id parent))
  /-- A member has the name of its parent with one more segment, whatever the text of it is. -/
  addMember_of_known : ∀ parent p name kind access, c.get? parent = some p →
    ∃ q : QualifiedName, q.segments = p.name.segments ++ [name] ∧
      c.addMember parent name kind access = c.add ⟨q, kind, access, some parent⟩
  /-- Made in place, a call answers and leaves the same. -/
  runIn_call : ∀ x, (Builder.call x).runIn c = ((c.attempt x).map Prod.fst, c.after x)
  unchanged : ∀ x err c', (Builder.call x).runIn c = (.error err, c') → c' = c
  grown : ∀ x i c', (Builder.call x).runIn c = (.ok i, c') →
    i = c.size ∧ ∃ e, c.requested x = some e ∧ Grown c e c'

theorem Sound.growsExactly (hc : c.Sound) : GrowsExactly c where
  duplicateEntity_iff e := by
    rw [hc.add_eq_error_iff]
    constructor
    · rintro (hname | _ | _)
      exact hname
    · exact .duplicateEntity
  unknownScope_iff e s := by
    rw [hc.add_eq_error_iff]
    constructor
    · rintro (_ | ⟨hname, hs, hget⟩ | _)
      exact ⟨hname, hs, hget⟩
    · rintro ⟨hname, hs, hget⟩
      exact .unknownScope hname hs hget
  invalidAccess_iff e := by
    simp only [hc.add_eq_error_iff]
    rw [misfits_iff]
    constructor
    · rintro ⟨problem, _ | _ | ⟨hname, hscope, haccess⟩⟩
      exact ⟨hname, hscope, problem, haccess⟩
    · rintro ⟨hname, hscope, problem, haccess⟩
      exact ⟨problem, .invalidAccess hname hscope haccess⟩
  arises_of_invalidAccess e problem h := by
    rw [hc.add_eq_error_iff] at h
    cases h with
    | invalidAccess _ _ haccess => exact haccess
  ok_iff e := by
    simp only [add_eq_ok_iff, Prod.mk.injEq, true_and, exists_and_left, exists_eq, and_true]
    rw [hc.refusal?_eq_none_iff, fits_iff_not_misfits]
  addMember_of_unknown parent name kind access h := by rw [addMember, h]
  addMember_of_known parent p name kind access h :=
    ⟨p.name.child name, p.name.segments_child name, by rw [addMember, h]⟩
  runIn_call x := Builder.runIn_call x c
  unchanged x err c' h := by
    rw [Builder.runIn_call, Catalog.after, Prod.mk.injEq] at h
    cases hx : c.attempt x with
    | error err' =>
        rw [hx] at h
        exact h.2.symm
    | ok r =>
        rw [hx] at h
        cases h.1
  grown x i c' h := by
    rw [Builder.runIn_call, Catalog.after, Prod.mk.injEq] at h
    cases hx : c.attempt x with
    | error err' =>
        rw [hx] at h
        cases h.1
    | ok r =>
        obtain ⟨e, he, hnone, rfl⟩ := attempt_eq_ok_iff.mp hx
        rw [hx] at h
        obtain ⟨hi, rfl⟩ := h
        obtain rfl := Except.ok.inj hi
        exact ⟨rfl, e, he, hc.grown_insert (hc.refusal?_eq_none_iff.mp hnone)⟩

/-- Whatever calls have built, the next call is answered by the first check that fails, and changes
the catalog only if none does. -/
theorem build_growsExactly (calls : List Call) : GrowsExactly (build calls) :=
  (sound_build calls).growsExactly

end Catalog

end Exposure
