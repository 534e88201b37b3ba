import Mathlib.Data.List.Dedup
import Mathlib.Data.List.Induction
import Mathlib.Data.List.Sort
import Mathlib.Data.String.Basic
import Exposure.Proofs.Resolution.Selection
import Exposure.Proofs.Resolution.Views

/-!
# The decisions by written name

Entities are told apart by their names, and the keys of the map are written forms, which different
names may share.  The map is filled in the order of the catalog, and what is put under a key takes
the place of what was there.  So a key keeps the decision of the last entity that is written so, and
the map is smaller than the catalog exactly when two entities are written alike.  No two are when
all names come back from their written forms.
-/

namespace Exposure

variable {c : Catalog} {p : Policy} {i : EntityId} {q : QualifiedName} {d : Decision}

namespace Resolution

variable {m : List (String × Decision)} {x : String × Decision} {k : String}
  {es : List (QualifiedName × Decision)}

/-! ## One insertion -/

/-- The keys ascend, so that each stands once. -/
def Ordered (m : List (String × Decision)) : Prop := (m.map Prod.fst).SortedLT

theorem ordered_cons : Ordered ((k, d) :: m) ↔ (∀ x ∈ m, k < x.1) ∧ Ordered m := by
  simp only [Ordered, List.sortedLT_iff_pairwise, List.map_cons, List.pairwise_cons,
    List.forall_mem_map]

/-- A key that is put in has the new decision, the other keys keep theirs. -/
theorem Ordered.mem_insertSorted (h : Ordered m) :
    x ∈ Resolution.insertSorted k d m ↔ x = (k, d) ∨ x.1 ≠ k ∧ x ∈ m := by
  fun_induction Resolution.insertSorted k d m with
  | case1 => simp
  | case2 a v rest hlt =>
      rw [compare_lt_iff_lt] at hlt
      -- the key is in front of all others, so nothing has stood under it
      have hne : ∀ y ∈ (a, v) :: rest, y.1 ≠ k := by
        rw [List.forall_mem_cons]
        exact ⟨hlt.ne', fun y hy => (hlt.trans ((ordered_cons.mp h).1 y hy)).ne'⟩
      rw [List.mem_cons, and_iff_right_of_imp fun hx => hne x hx]
  | case3 a v rest heq =>
      obtain rfl := compare_eq_iff_eq.mp heq
      rw [List.mem_cons, List.mem_cons]
      refine or_congr_right ⟨fun hx => ⟨((ordered_cons.mp h).1 x hx).ne', .inr hx⟩, ?_⟩
      rintro ⟨hne, rfl | hx⟩
      · exact absurd rfl hne
      · exact hx
  | case4 a v rest hgt ih =>
      rw [compare_gt_iff_gt] at hgt
      rw [List.mem_cons, List.mem_cons, ih (ordered_cons.mp h).2]
      constructor
      · rintro (rfl | rfl | ⟨hne, hx⟩)
        · exact .inr ⟨hgt.ne, .inl rfl⟩
        · exact .inl rfl
        · exact .inr ⟨hne, .inr hx⟩
      · rintro (rfl | ⟨hne, rfl | hx⟩)
        · exact .inr (.inl rfl)
        · exact .inl rfl
        · exact .inr (.inr ⟨hne, hx⟩)

theorem Ordered.insertSorted (h : Ordered m) : Ordered (insertSorted k d m) := by
  fun_induction Resolution.insertSorted k d m with
  | case1 => exact ordered_cons.mpr ⟨by simp, h⟩
  | case2 a v rest hlt =>
      rw [compare_lt_iff_lt] at hlt
      refine ordered_cons.mpr ⟨List.forall_mem_cons.mpr ⟨hlt, fun y hy => ?_⟩, h⟩
      exact hlt.trans ((ordered_cons.mp h).1 y hy)
  | case3 a v rest heq =>
      obtain rfl := compare_eq_iff_eq.mp heq
      exact ordered_cons.mpr (ordered_cons.mp h)
  | case4 a v rest hgt ih =>
      rw [compare_gt_iff_gt] at hgt
      obtain ⟨ha, hrest⟩ := ordered_cons.mp h
      refine ordered_cons.mpr ⟨fun y hy => ?_, ih hrest⟩
      rcases hrest.mem_insertSorted.mp hy with rfl | ⟨-, hy⟩
      · exact hgt
      · exact ha y hy

/-! ## All insertions -/

/-- The map of a list of entries. -/
def mapOf (es : List (QualifiedName × Decision)) : List (String × Decision) :=
  es.foldl (fun m e => insertSorted e.1.display e.2 m) []

theorem toMap_eq (r : Resolution) : r.toMap = mapOf r.entries := rfl

theorem mapOf_concat (es : List (QualifiedName × Decision)) (y : QualifiedName × Decision) :
    mapOf (es ++ [y]) = insertSorted y.1.display y.2 (mapOf es) := by
  simp [mapOf]

/-- The last of the entries whose name is written as a text. -/
def lastWritten? (es : List (QualifiedName × Decision)) (k : String) :
    Option (QualifiedName × Decision) :=
  es.reverse.find? fun y => y.1.display = k

theorem lastWritten?_concat (es : List (QualifiedName × Decision)) (y : QualifiedName × Decision)
    (k : String) :
    lastWritten? (es ++ [y]) k = if y.1.display = k then some y else lastWritten? es k := by
  rw [lastWritten?, List.reverse_append, List.reverse_singleton, List.singleton_append,
    List.find?_cons]
  split_ifs with h <;> simp [h, lastWritten?]

theorem ordered_mapOf (es : List (QualifiedName × Decision)) : Ordered (mapOf es) := by
  induction es using List.reverseRecOn with
  | nil => exact List.sortedLT_iff_pairwise.mpr .nil
  | append_singleton es y ih =>
      rw [mapOf_concat]
      exact ih.insertSorted

/-- The map has the decision of the last entry that is written as the key. -/
theorem mem_mapOf : x ∈ mapOf es ↔ ∃ q, lastWritten? es x.1 = some (q, x.2) := by
  induction es using List.reverseRecOn with
  | nil => simp [mapOf, lastWritten?]
  | append_singleton es y ih =>
      rw [mapOf_concat, (ordered_mapOf es).mem_insertSorted, ih, lastWritten?_concat]
      -- the new entry is the last one under its own key, and no entry at all under the others
      by_cases hk : y.1.display = x.1
      · rw [if_pos hk]
        constructor
        · rintro (rfl | ⟨hne, -⟩)
          · exact ⟨y.1, rfl⟩
          · exact absurd hk.symm hne
        · rintro ⟨q, hq⟩
          obtain rfl := Option.some.inj hq
          exact .inl (Prod.ext hk.symm rfl)
      · rw [if_neg hk]
        constructor
        · rintro (rfl | ⟨-, hx⟩)
          · exact absurd rfl hk
          · exact hx
        · exact fun hx => .inr ⟨Ne.symm hk, hx⟩

/-- The last entry that is written as a text, by its place. -/
theorem lastWritten?_eq_some_iff {y : QualifiedName × Decision} :
    lastWritten? es k = some y ↔ y.1.display = k ∧
      ∃ i : Nat, es[i]? = some y ∧
        ∀ (j : Nat) (z : QualifiedName × Decision), es[j]? = some z → z.1.display = k → j ≤ i := by
  rw [lastWritten?, List.find?_eq_some_iff_append, decide_eq_true_eq]
  refine and_congr_right fun _ => ?_
  -- what the search passes over stands behind the entry, as the entries are searched from the end
  constructor
  · rintro ⟨after, before, hsplit, hafter⟩
    rw [List.reverse_eq_iff, List.reverse_append, List.reverse_cons] at hsplit
    refine ⟨before.length, by simp [hsplit], fun j z hz hk => ?_⟩
    by_contra! hlt
    have hmem : z ∈ after.reverse := by
      rw [hsplit, List.getElem?_append_right (by simpa using Nat.succ_le_of_lt hlt)] at hz
      exact List.mem_of_getElem? hz
    simpa [hk] using hafter z (List.mem_reverse.mp hmem)
  · rintro ⟨i, hi, hlast⟩
    obtain ⟨hlt, rfl⟩ := List.getElem?_eq_some_iff.mp hi
    refine ⟨(es.drop (i + 1)).reverse, (es.take i).reverse, ?_, fun z hz => ?_⟩
    · rw [List.reverse_eq_iff]
      simp
    · obtain ⟨j, hj⟩ := List.mem_iff_getElem?.mp (List.mem_reverse.mp hz)
      rw [List.getElem?_drop] at hj
      have hne : z.1.display ≠ k := fun hk => by
        have hle := hlast _ z hj hk
        omega
      simpa using hne

/-! ## Keys -/

theorem mem_keys_mapOf : k ∈ (mapOf es).map Prod.fst ↔ k ∈ es.map fun y => y.1.display := by
  calc
    k ∈ (mapOf es).map Prod.fst ↔ ∃ d q, lastWritten? es k = some (q, d) := by
      simp [mem_mapOf]
    _ ↔ (lastWritten? es k).isSome := by
      rw [Option.isSome_iff_exists, Prod.exists, exists_comm]
    _ ↔ k ∈ es.map fun y => y.1.display := by
      simp [lastWritten?]

/-- There are as many keys as there are different written names. -/
theorem length_mapOf (es : List (QualifiedName × Decision)) :
    (mapOf es).length = (es.map fun y => y.1.display).dedup.length := by
  have hperm : ((mapOf es).map Prod.fst).Perm (es.map fun y => y.1.display).dedup := by
    rw [List.perm_ext_iff_of_nodup (ordered_mapOf es).nodup (List.nodup_dedup _)]
    intro k
    rw [mem_keys_mapOf, List.mem_dedup]
  rw [← hperm.length_eq, List.length_map]

theorem length_mapOf_eq_iff :
    (mapOf es).length = es.length ↔ (es.map fun y => y.1.display).Nodup := by
  rw [length_mapOf, ← List.dedup_eq_self,
    ← List.length_map fun y : QualifiedName × Decision => y.1.display]
  constructor
  · exact (List.dedup_sublist _).eq_of_length
  · exact congrArg List.length

end Resolution

/-! ## The entities of a catalog -/

/-- An entry is the name of an entity with the decision for its id. -/
theorem getElem?_entries_eq_some_iff :
    (resolve c p).entries[i]? = some (q, d) ↔
      ∃ e, c.get? i = some e ∧ e.name = q ∧ (resolve c p).decisionFor? i = some d := by
  constructor
  · intro h
    have hname := map_fst_getElem?_entries c p i
    rw [h, Option.map_some, eq_comm, Option.map_eq_some_iff] at hname
    obtain ⟨e, he, hq⟩ := hname
    exact ⟨e, he, hq, by rw [Resolution.decisionFor?, h, Option.map_some]⟩
  · rintro ⟨e, he, rfl, hd⟩
    obtain ⟨d', hx, hd'⟩ := exists_getElem?_entries p he
    rw [hx, Option.some.inj (hd.symm.trans hd')]

theorem map_display_entries (c : Catalog) (p : Policy) :
    (resolve c p).entries.map (fun y => y.1.display) =
      c.entities.map fun e => e.name.display := by
  have hnames := congrArg (List.map QualifiedName.display) (map_fst_entries_resolve c p)
  rwa [List.map_map, List.map_map] at hnames

/-- The map has the decision of the last entity that is written as the key. -/
theorem mem_toMap_resolve {k : String} :
    (k, d) ∈ (resolve c p).toMap ↔ ∃ i e, c.get? i = some e ∧ e.name.display = k ∧
      (resolve c p).decisionFor? i = some d ∧
        ∀ j f, c.get? j = some f → f.name.display = k → j ≤ i := by
  rw [Resolution.toMap_eq, Resolution.mem_mapOf]
  simp only [Resolution.lastWritten?_eq_some_iff, Prod.forall, getElem?_entries_eq_some_iff]
  constructor
  · rintro ⟨q, hq, i, ⟨e, he, rfl, hd⟩, hlast⟩
    refine ⟨i, e, he, hq, hd, fun j f hf hk => ?_⟩
    obtain ⟨d', -, hd'⟩ := exists_getElem?_entries p hf
    exact hlast j f.name d' ⟨f, hf, rfl, hd'⟩ hk
  · rintro ⟨i, e, he, hk, hd, hlast⟩
    refine ⟨e.name, hk, i, ⟨e, he, rfl, hd⟩, ?_⟩
    rintro j q d' ⟨f, hf, rfl, -⟩
    exact hlast j f hf

/-- Names that come back from their written forms are written differently. -/
theorem Catalog.Sound.nodup_display (hc : c.Sound)
    (hnames : ∀ e ∈ c.entities, QualifiedName.parse e.name.display = e.name) :
    (c.entities.map fun e => e.name.display).Nodup := by
  have hmap : (c.entities.map Entity.name).map QualifiedName.display =
      c.entities.map fun e => e.name.display := List.map_map
  rw [← hmap]
  refine hc.admissible.nodup_names.map_on ?_
  simp only [List.forall_mem_map]
  exact fun e he f hf => (QualifiedName.display_inj (hnames e he) (hnames f hf)).mp

/-- One text stands in front of another by the code points of their characters. -/
def Text.Precedes (s t : String) : Prop :=
  List.Lex (fun a b : Char => a.toNat < b.toNat) s.toList t.toList

/-- Code points are what texts are compared by. -/
theorem Text.precedes_iff {s t : String} : Precedes s t ↔ s < t := Iff.rfl

/-- The decisions by written name are those of the entities. -/
structure MapsWrittenNames (c : Catalog) (p : Policy) : Prop where
  /-- The keys stand in the order of their code points, each once. -/
  ascending : ((resolve c p).toMap.map Prod.fst).Pairwise Text.Precedes
  mem_keys_iff : ∀ k, k ∈ (resolve c p).toMap.map Prod.fst ↔ ∃ e ∈ c.entities, e.name.display = k
  /-- The last entity in the order of the catalog that is written as the key decides. -/
  mem_iff : ∀ k d, (k, d) ∈ (resolve c p).toMap ↔
    ∃ i e, c.get? i = some e ∧ e.name.display = k ∧ (resolve c p).decisionFor? i = some d ∧
      ∀ j f, c.get? j = some f → f.name.display = k → j ≤ i
  /-- Nothing is lost exactly when no two entities are written alike. -/
  length_eq_iff : (resolve c p).toMap.length = c.size ↔
    (c.entities.map fun e => e.name.display).Nodup
  /-- No two are when all names come back from their written forms. -/
  nodup_of_forall_parse : (∀ e ∈ c.entities, QualifiedName.parse e.name.display = e.name) →
    (c.entities.map fun e => e.name.display).Nodup

theorem mapsWrittenNames_of_sound (hc : c.Sound) (p : Policy) : MapsWrittenNames c p where
  ascending := (Resolution.ordered_mapOf _).pairwise.imp Text.precedes_iff.mpr
  mem_keys_iff k := by
    rw [Resolution.toMap_eq, Resolution.mem_keys_mapOf, map_display_entries, List.mem_map]
  mem_iff _ _ := mem_toMap_resolve
  length_eq_iff := by
    rw [← map_display_entries c p, ← Resolution.length_mapOf_eq_iff, ← Resolution.toMap_eq,
      ← Resolution.size_resolve c p, Resolution.size]
  nodup_of_forall_parse := hc.nodup_display

/-- In every catalog that calls build and under every policy the map has the decision of the last
entity for each written name. -/
theorem resolve_mapsWrittenNames (calls : List Catalog.Call) (p : Policy) :
    MapsWrittenNames (Catalog.build calls) p :=
  mapsWrittenNames_of_sound (Catalog.sound_build calls) p

/-- Two names that are written alike share a key, and the later one decides. -/
example :
    let c := Catalog.build
      [.add ⟨⟨["a:"], "b"⟩, .classType, .notApplicable, none⟩,
        .add ⟨⟨["a"], ":b"⟩, .classType, .notApplicable, none⟩]
    let p : Policy := ⟨[.defaultDeny, .expose (.exact ⟨["a"], ":b"⟩)], rfl⟩
    (resolve c p).toMap = [("a:::b", ⟨true, 1⟩)] := by
  decide +kernel

end Exposure
