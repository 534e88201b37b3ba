import Mathlib.Logic.Relation
import Exposure.Proofs.Ascending
import Exposure.Proofs.Catalog.Sound

/-!
# What encloses an entity

A scope encloses an entity when it is met by following scopes upwards from the entity.  In a sound
catalog every scope stands in front of its members, so the scopes around an entity form a chain that
descends to its end.  This file shows that all three walks over the containment compute this
relation: the climb along the scopes, the list of the direct members, and the search through the
graph.
-/

namespace Exposure.Catalog

variable {c : Catalog} {i j s t : EntityId}

/-- The first id is met by following scopes upwards from the second, in one or more steps. -/
def Encloses (c : Catalog) (s i : EntityId) : Prop :=
  Relation.TransGen (fun a b => c.scope? b = some a) s i

/-- What encloses an entity is its scope or encloses its scope. -/
theorem encloses_iff : c.Encloses s i ↔ ∃ p, c.scope? i = some p ∧ (s = p ∨ c.Encloses s p) := by
  constructor
  · intro h
    cases h with
    | single h => exact ⟨s, h, .inl rfl⟩
    | tail hs h => exact ⟨_, h, .inr hs⟩
  · rintro ⟨p, h, rfl | hs⟩
    · exact .single h
    · exact .tail hs h

/-- What a scope encloses is a member of it or enclosed by one. -/
theorem encloses_iff_of_scope :
    c.Encloses s i ↔ ∃ m, c.scope? m = some s ∧ (i = m ∨ c.Encloses m i) := by
  rw [Encloses, Relation.TransGen.head'_iff]
  simp only [Relation.reflTransGen_iff_eq_or_transGen, Encloses]

theorem Encloses.trans (hs : c.Encloses s t) (ht : c.Encloses t i) : c.Encloses s i :=
  Relation.TransGen.trans hs ht

theorem Encloses.lt_size (h : c.Encloses s i) : i < c.size := by
  obtain ⟨p, hp, -⟩ := encloses_iff.mp h
  exact lt_size_of_scope? hp

namespace Sound

/-- What encloses an entity stands in front of it. -/
theorem lt_of_encloses (h : c.Sound) (hs : c.Encloses s i) : s < i := by
  induction hs with
  | single hs => exact h.scope?_lt hs
  | tail _ hs ih => exact lt_trans ih (h.scope?_lt hs)

/-- Of two scopes around an entity one encloses the other. -/
theorem encloses_total (h : c.Sound) (hs : c.Encloses s i) (ht : c.Encloses t i) :
    s = t ∨ c.Encloses s t ∨ c.Encloses t s := by
  induction i using Nat.strong_induction_on with
  | _ i ih =>
      obtain ⟨p, hp, hsp⟩ := encloses_iff.mp hs
      obtain ⟨p', hp', htp⟩ := encloses_iff.mp ht
      rw [hp, Option.some.injEq] at hp'
      subst hp'
      -- both scopes are met from the same parent, at once or further up
      rcases hsp with rfl | hsp
      · rcases htp with rfl | htp
        · exact .inl rfl
        · exact .inr (.inr htp)
      · rcases htp with rfl | htp
        · exact .inr (.inl hsp)
        · exact ih p (h.scope?_lt hp) hsp htp

/-- Two members of one scope do not enclose one another. -/
theorem not_encloses_of_scope?_eq (h : c.Sound) (hi : c.scope? i = some s)
    (hj : c.scope? j = some s) : ¬ c.Encloses i j := by
  intro hij
  obtain ⟨p, hp, hip⟩ := encloses_iff.mp hij
  rw [hj, Option.some.injEq] at hp
  subst hp
  have hlt : s < i := h.scope?_lt hi
  rcases hip with rfl | his
  · exact lt_irrefl _ hlt
  · exact lt_asymm hlt (h.lt_of_encloses his)

/-! ## The climb -/

/-- The climb from an entity ends and tells whether the scope encloses the entity. -/
theorem exists_isMemberOf? (h : c.Sound) (i s : EntityId) :
    ∃ b, c.isMemberOf? i s = some b ∧ (b = true ↔ c.Encloses s i) := by
  induction i using Nat.strong_induction_on with
  | _ i ih =>
      cases hp : c.scope? i with
      | none =>
          refine ⟨false, by rw [isMemberOf?, hp, climb_none], ?_⟩
          rw [encloses_iff, hp]
          simp
      | some p =>
          by_cases hps : p = s
          · exact ⟨true, by rw [isMemberOf?, hp, climb_some, if_pos hps],
              iff_of_true rfl (.single (hps ▸ hp))⟩
          · obtain ⟨b, hb, hiff⟩ := ih p (h.scope?_lt hp)
            refine ⟨b, by rw [isMemberOf?, hp, climb_some, if_neg hps, ← hb, isMemberOf?], ?_⟩
            rw [hiff, @encloses_iff c i s, hp]
            constructor
            · exact fun hs => ⟨p, rfl, .inr hs⟩
            · rintro ⟨p', hp', rfl | hs⟩
              · exact absurd (Option.some.inj hp') hps
              · exact Option.some.inj hp' ▸ hs

theorem isMemberOf?_eq_true_iff (h : c.Sound) :
    c.isMemberOf? i s = some true ↔ c.Encloses s i := by
  obtain ⟨b, hb, hiff⟩ := h.exists_isMemberOf? i s
  rw [hb, Option.some.injEq, hiff]

/-! ## Direct members -/

theorem nodup_neighbors (h : c.Sound) (s : EntityId) : (c.containment.neighbors s).Nodup := by
  have hnodup := (sortedLT_edges_ofEntities c.entities).nodup
  rw [h.canonical] at hnodup
  exact List.nodup_reverse.mpr (hnodup.sublist (List.filter_sublist.map Prod.snd))

theorem filterMap_neighbors (h : c.Sound) (s : EntityId) :
    (c.containment.neighbors s).filterMap c.containment.weight? = c.containment.neighbors s := by
  apply h.filterMap_weight?
  intro j hj
  rw [Graph.mem_neighbors] at hj
  exact lt_size_of_scope? (h.adj_iff.mp hj)

/-- The members of a scope are the entities whose scope it is. -/
theorem mem_members (h : c.Sound) : i ∈ c.members s ↔ c.scope? i = some s := by
  rw [members, h.filterMap_neighbors, List.mem_mergeSort, Graph.mem_neighbors]
  exact h.adj_iff

theorem sortedLT_members (h : c.Sound) (s : EntityId) : (c.members s).SortedLT := by
  rw [members, h.filterMap_neighbors]
  exact Ascending.sortedLT_mergeSort (h.nodup_neighbors s)

theorem encloses_iff_transGen_members (h : c.Sound) :
    c.Encloses s i ↔ Relation.TransGen (fun a b => b ∈ c.members a) s i := by
  have hrel : (fun a b => b ∈ c.members a) = fun a b => c.scope? b = some a := by
    funext a b
    exact propext h.mem_members
  rw [hrel]
  rfl

/-! ## The search -/

/-- A search from a known scope visits the scope and what it encloses. -/
theorem mem_searchFrom_iff (h : c.Sound) :
    i ∈ c.containment.searchFrom s ↔ i = s ∨ c.Encloses s i := by
  have hrel : c.containment.Adj = fun a b => c.scope? b = some a := by
    funext a b
    exact propext h.adj_iff
  rw [Graph.mem_searchFrom, hrel, Relation.reflTransGen_iff_eq_or_transGen]
  rfl

theorem filterMap_searchFrom (h : c.Sound) (s : EntityId) :
    ((c.containment.searchFrom s).filter (· ≠ s)).filterMap c.containment.weight? =
      (c.containment.searchFrom s).filter (· ≠ s) := by
  apply h.filterMap_weight?
  intro j hj
  rw [List.mem_filter, h.mem_searchFrom_iff, decide_eq_true_eq] at hj
  exact (hj.1.resolve_left hj.2).lt_size

/-- Below a scope lies what it encloses. -/
theorem mem_membersTransitive (h : c.Sound) :
    i ∈ c.membersTransitive s ↔ c.Encloses s i := by
  unfold membersTransitive
  split
  · rw [h.filterMap_searchFrom, List.mem_mergeSort, List.mem_filter, h.mem_searchFrom_iff,
      decide_eq_true_eq]
    constructor
    · rintro ⟨rfl | hs, hne⟩
      · exact absurd rfl hne
      · exact hs
    · exact fun hs => ⟨.inr hs, ne_of_gt (h.lt_of_encloses hs)⟩
  · rename_i hs
    simp only [List.not_mem_nil, false_iff]
    intro hi
    exact hs ((c.get?_isSome_iff s).mpr (lt_trans (h.lt_of_encloses hi) hi.lt_size))

theorem sortedLT_membersTransitive (h : c.Sound) (s : EntityId) :
    (c.membersTransitive s).SortedLT := by
  unfold membersTransitive
  split
  · rw [h.filterMap_searchFrom]
    exact Ascending.sortedLT_mergeSort ((c.containment.nodup_searchFrom s).filter _)
  · exact List.sortedLT_iff_pairwise.mpr List.Pairwise.nil

end Sound

end Exposure.Catalog
