import Exposure.Matcher
import Exposure.Proofs.Catalog.Enclosure

/-!
# What a rule matches

A matcher goes from a target down to the entities that it reaches, with the index of the catalog and
the written names at hand.  Whether one entity is matched can be told from the entity upwards: a
target reaches it by naming it or a class around it.  This file shows that both ways give the same
entities, whatever a matcher has kept from earlier rules.
-/

namespace Exposure

/-- Whether a target names an entity by itself, without what lies in it. -/
def Target.Names : Target → QualifiedName → Prop
  | .exact name, q => q = name
  | .glob pattern, q => pattern.isMatch q.display = true

/-- A target reaches what it names and what lies in the classes that it names. -/
def Target.Reaches (t : Target) (c : Catalog) (i : EntityId) : Prop :=
  ∃ r e, c.get? r = some e ∧ t.Names e.name ∧ (r = i ∨ e.kind = .classType ∧ c.Encloses r i)

/-- The rule matches the entity of an id. -/
def Rule.Matches (c : Catalog) (i : EntityId) : Rule → Prop
  | .defaultDeny => True
  | .expose target | .hide target => target.Reaches c i
  | .hideAccess access =>
      ∃ e, c.get? i = some e ∧ (e.kind = .method ∨ e.kind = .field) ∧ e.access = access

theorem Target.Reaches.lt_size {t : Target} {c : Catalog} {i : EntityId} (h : t.Reaches c i) :
    i < c.size := by
  obtain ⟨r, e, hr, -, rfl | ⟨-, hi⟩⟩ := h
  · exact (c.get?_isSome_iff r).mp (Option.isSome_of_eq_some hr)
  · exact hi.lt_size

/-- Going through a catalog meets the ids in ascending order. -/
theorem Catalog.sortedLT_map_fst_filter_iter (c : Catalog) (keep : EntityId × Entity → Bool) :
    ((c.iter.filter keep).map Prod.fst).SortedLT := by
  have hids : (c.iter.map Prod.fst).SortedLT := by
    rw [map_fst_iter]
    exact List.sortedLT_range _
  rw [List.sortedLT_iff_pairwise] at hids ⊢
  exact hids.sublist (List.filter_sublist.map Prod.fst)

namespace Matcher

variable {c : Catalog} {m : Matcher} {t : Target} {i r : EntityId}

@[simp] theorem has_accessKinds (k : EntityKind) :
    accessKinds.has k = true ↔ k = .method ∨ k = .field := by
  cases k <;> decide

@[simp] theorem has_expandingKinds (k : EntityKind) :
    expandingKinds.has k = true ↔ k = .classType := by
  cases k <;> decide

/-! ## The written names -/

/-- What has been kept are the written names of the catalog. -/
def Faithful (c : Catalog) (m : Matcher) : Prop :=
  ∀ ns, m.written = some ns → ns = c.iter.map fun x => x.2.name.display

theorem faithful_new (c : Catalog) : Faithful c {} := by
  intro ns hns
  cases hns

theorem Faithful.fst_names (h : m.Faithful c) :
    (m.names c).1 = c.iter.map fun x => x.2.name.display := by
  unfold names
  cases hw : m.written with
  | none => rfl
  | some ns => exact h ns hw

theorem Faithful.snd_names (h : m.Faithful c) : (m.names c).2.Faithful c := by
  unfold names
  cases hw : m.written with
  | none =>
      intro ns hns
      exact (Option.some.inj hns).symm
  | some ns => exact h

theorem Faithful.snd_matched (h : m.Faithful c) (r : Rule) : (m.matched c r).2.Faithful c := by
  have hnamed (t : Target) : (m.named c t).2.Faithful c := by
    cases t with
    | exact q => exact h
    | glob pattern => exact h.snd_names
  cases r with
  | defaultDeny => exact h
  | expose t => exact hnamed t
  | hide t => exact hnamed t
  | hideAccess a => exact h

/-! ## Targets -/

/-- The named entities are the ones whose name fits the target. -/
theorem mem_named (hc : c.Sound) (hm : m.Faithful c) :
    r ∈ (m.named c t).1 ↔ ∃ e, c.get? r = some e ∧ t.Names e.name := by
  cases t with
  | exact q => simp [named, Target.Names, hc.lookup_eq_some_iff]
  | glob pattern =>
      simp [named, hm.fst_names, Target.Names, List.mem_zipIdx_iff_getElem?, Catalog.iter,
        Catalog.get?]

theorem mem_withMembers (hc : c.Sound) :
    i ∈ withMembers c r ↔
      i = r ∨ (∃ e, c.get? r = some e ∧ e.kind = .classType) ∧ c.Encloses r i := by
  have hclass : (((c.get? r).any fun e => expandingKinds.has e.kind) = true) ↔
      ∃ e, c.get? r = some e ∧ e.kind = .classType := by
    rw [Option.any_eq_true]
    simp
  rw [withMembers, List.mem_cons, ← hclass]
  split
  · rename_i h
    rw [hc.mem_membersTransitive]
    simp [h]
  · rename_i h
    simp [h]

/-- The search for a target finds what the target reaches. -/
theorem mem_reached (hc : c.Sound) (hm : m.Faithful c) :
    i ∈ (m.reached c t).1 ↔ t.Reaches c i := by
  have hroots : i ∈ (m.reached c t).1 ↔ ∃ r ∈ (m.named c t).1, i ∈ withMembers c r := by
    simp [reached]
  rw [hroots]
  constructor
  · rintro ⟨r, hr, hi⟩
    obtain ⟨e, he, hname⟩ := (mem_named hc hm).mp hr
    refine ⟨r, e, he, hname, ?_⟩
    rcases (mem_withMembers hc).mp hi with rfl | ⟨⟨e', he', hk⟩, hi⟩
    · exact .inl rfl
    · rw [he, Option.some.injEq] at he'
      exact .inr ⟨he' ▸ hk, hi⟩
  · rintro ⟨r, e, he, hname, h⟩
    refine ⟨r, (mem_named hc hm).mpr ⟨e, he, hname⟩, (mem_withMembers hc).mpr ?_⟩
    rcases h with rfl | ⟨hk, hi⟩
    · exact .inl rfl
    · exact .inr ⟨⟨e, he, hk⟩, hi⟩

/-! ## Rules -/

/-- A matcher finds the entities that a rule matches. -/
theorem mem_matched (hc : c.Sound) (hm : m.Faithful c) {x : Rule} :
    i ∈ (m.matched c x).1 ↔ i < c.size ∧ x.Matches c i := by
  cases x with
  | defaultDeny => simp [matched, Rule.Matches, Catalog.lt_size_iff]
  | expose t =>
      rw [matched, mem_reached hc hm]
      exact ⟨fun h => ⟨h.lt_size, h⟩, fun h => h.2⟩
  | hide t =>
      rw [matched, mem_reached hc hm]
      exact ⟨fun h => ⟨h.lt_size, h⟩, fun h => h.2⟩
  | hideAccess a =>
      simp only [matched, Rule.Matches, List.mem_map, List.mem_filter, Bool.and_eq_true,
        decide_eq_true_eq, has_accessKinds, Prod.exists, Catalog.mem_iter, Catalog.lt_size_iff]
      constructor
      · rintro ⟨_, e, ⟨he, hk⟩, rfl⟩
        exact ⟨⟨e, he⟩, e, he, hk⟩
      · rintro ⟨-, e, he, hk⟩
        exact ⟨i, e, ⟨he, hk⟩, rfl⟩

/-- A matcher finds nothing exactly when the rule matches no entity. -/
theorem matched_eq_nil_iff (hc : c.Sound) (hm : m.Faithful c) (x : Rule) :
    (m.matched c x).1 = [] ↔ ∀ i < c.size, ¬ x.Matches c i := by
  simp [List.eq_nil_iff_forall_not_mem, mem_matched hc hm]

/-- The ids that a rule matches come in ascending order, each once. -/
theorem sortedLT_matched (c : Catalog) (m : Matcher) (x : Rule) : (m.matched c x).1.SortedLT := by
  have hreached (t : Target) : (m.reached c t).1.SortedLT :=
    Ascending.sortedLT_eraseReps List.sortedLE_mergeSort
  cases x with
  | defaultDeny =>
      rw [matched, Catalog.map_fst_iter]
      exact List.sortedLT_range _
  | expose t => exact hreached t
  | hide t => exact hreached t
  | hideAccess a => exact c.sortedLT_map_fst_filter_iter _

end Matcher

end Exposure
