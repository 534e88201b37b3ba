import Exposure.Proofs.Catalog.Enclosure

/-!
# What calls build

A catalog that calls build lists the entities of the accepted calls in the order of the calls, each
under the id that its call was answered with.  The index and the graph are kept beside this list;
the main statement says that they stay in step with it through every sequence of calls, and that the
access rules hold of every entity in the end.
-/

namespace Exposure.Catalog

variable {c : Catalog} {i s : EntityId}

/-- The entities of the calls that are accepted, each with the id that its call is answered with. -/
def accepted (c : Catalog) : List Call → List (EntityId × Entity)
  | [] => []
  | x :: calls =>
      match c.attempt x, c.requested x with
      | .ok (i, c'), some e => (i, e) :: c'.accepted calls
      | _, _ => c.accepted calls

/-- Calls append their accepted entities to the list of a catalog. -/
theorem iter_foldl_after (c : Catalog) (calls : List Call) :
    (calls.foldl after c).iter = c.iter ++ c.accepted calls := by
  induction calls generalizing c with
  | nil => simp [accepted]
  | cons x calls ih =>
      rw [List.foldl_cons, ih]
      cases hx : c.attempt x with
      | error err => simp [after, accepted, hx]
      | ok r =>
          obtain ⟨e, he, -, rfl⟩ := attempt_eq_ok_iff.mp hx
          simp [after, accepted, hx, he]

theorem iter_build (calls : List Call) : (build calls).iter = empty.accepted calls := by
  rw [build, iter_foldl_after]
  rfl

/-! ## The three parts in step -/

/-- The parts of a catalog hold the listed entities with their ids, and nothing else. -/
structure Represents (c : Catalog) (added : List (EntityId × Entity)) : Prop where
  /-- The entities come in the order in which they were added. -/
  iter_eq : c.iter = added
  /-- The ids are dense. -/
  ids_eq : added.map Prod.fst = List.range added.length
  get?_eq : ∀ i, c.get? i = (added[i]?).map Prod.snd
  lookup_iff : ∀ q i, c.lookup q = some i ↔ ∃ e, c.get? i = some e ∧ e.name = q
  names_nodup : (added.map fun x => x.2.name).Nodup
  scope_lt : ∀ i e s, c.get? i = some e → e.scope = some s → s < i
  members_ascending : ∀ s, (c.members s).SortedLT
  mem_members_iff : ∀ s i, i ∈ c.members s ↔ ∃ e, c.get? i = some e ∧ e.scope = some s
  members_of_unknown : ∀ s, c.get? s = none → c.members s = []
  /-- Methods and fields are in classes. -/
  scope_of_member : ∀ i e, c.get? i = some e → e.kind = .method ∨ e.kind = .field →
    ∃ s p, e.scope = some s ∧ c.get? s = some p ∧ p.kind = .classType
  /-- Exactly what is in a class has an access level. -/
  access_iff : ∀ i e, c.get? i = some e →
    (e.access = .pub ∨ e.access = .prot ∨ e.access = .priv ↔
      ∃ s p, e.scope = some s ∧ c.get? s = some p ∧ p.kind = .classType)

theorem isMember_iff (e : Entity) : e.isMember = true ↔ e.kind = .method ∨ e.kind = .field :=
  e.kind.isMember_iff

theorem isSpecifier_iff (a : Access) : a.isSpecifier = true ↔ a = .pub ∨ a = .prot ∨ a = .priv := by
  cases a <;> simp [Access.isSpecifier]

/-- An entity of a sound catalog is in a class when its scope is one. -/
theorem Sound.fits (h : c.Sound) {e : Entity} (he : c.get? i = some e) :
    (e.isMember = true → e.InClass c.entities) ∧
      (e.access.isSpecifier = true ↔ e.InClass c.entities) := by
  have hin := h.admissible.inClass_take he
  have hfits := h.admissible i e he
  exact ⟨fun hm => hin.mp (hfits.member hm), hfits.access.trans hin⟩

/-- A sound catalog holds its entities in all three parts. -/
theorem Sound.represents (h : c.Sound) : Represents c c.iter where
  iter_eq := rfl
  ids_eq := by rw [map_fst_iter, length_iter]
  get?_eq i := by
    rw [getElem?_iter]
    cases c.get? i <;> rfl
  lookup_iff _ _ := h.lookup_eq_some_iff
  names_nodup := by
    rw [map_name_iter]
    exact h.admissible.nodup_names
  scope_lt i e s he hs := h.admissible.scope_lt he hs
  members_ascending := h.sortedLT_members
  mem_members_iff s i := by
    rw [h.mem_members, scope?, Option.bind_eq_some_iff]
  members_of_unknown s hs := by
    apply List.eq_nil_iff_forall_not_mem.mpr
    intro i hi
    have hlt := h.scope?_lt (h.mem_members.mp hi)
    have hlt' := lt_trans hlt (lt_size_of_scope? (h.mem_members.mp hi))
    rw [← c.get?_isSome_iff, hs] at hlt'
    cases hlt'
  scope_of_member i e he hk := (h.fits he).1 ((isMember_iff e).mpr hk)
  access_iff i e he := by
    rw [← isSpecifier_iff]
    exact (h.fits he).2

/-- Whatever calls build holds the accepted entities, in the order of the calls, in all three
parts. -/
theorem build_represents (calls : List Call) :
    Represents (build calls) (empty.accepted calls) := by
  rw [← iter_build]
  exact (sound_build calls).represents

end Exposure.Catalog
