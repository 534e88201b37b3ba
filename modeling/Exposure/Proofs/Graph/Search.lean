import Mathlib.Logic.Relation
import Exposure.Graph.Search

/-!
# What a depth-first search visits

A search from a node visits exactly the nodes that can be reached from it along edges, each of them
once.  That nothing else is visited holds because only neighbours of visited nodes are put onto the
stack.  That nothing is missed rests on two facts about a search that has ended: it has visited
everything that stood on its stack, and every neighbour of a node that it has visited.
-/

namespace Exposure.Graph

variable {α : Type} (g : Graph α)

/-- An edge leads from one node to another. -/
def Adj (m n : Nat) : Prop := (m, n) ∈ g.edges

theorem mem_unvisited {m n : Nat} {visited : List Nat} :
    n ∈ g.unvisited m visited ↔ g.Adj m n ∧ n ∉ visited := by
  simp [unvisited, Adj]

/-! ## Every node at most once -/

/-- A search does not visit again what was visited before it. -/
theorem notMem_search {n : Nat} {stack visited : List Nat} (h : n ∈ visited) :
    n ∉ g.search stack visited := by
  fun_induction g.search stack visited with
  | case1 => exact List.not_mem_nil
  | case2 m stack visited hm ih => exact ih h
  | case3 m stack visited hm ih =>
      have hne : n ≠ m := fun e => hm (e ▸ h)
      simpa [hne] using ih (List.mem_cons_of_mem m h)

theorem nodup_search (stack visited : List Nat) : (g.search stack visited).Nodup := by
  fun_induction g.search stack visited with
  | case1 => exact List.nodup_nil
  | case2 m stack visited hm ih => exact ih
  | case3 m stack visited hm ih =>
      exact List.nodup_cons.mpr ⟨g.notMem_search List.mem_cons_self, ih⟩

/-! ## Nothing but what can be reached -/

/-- What a search visits can be reached from something on its stack. -/
theorem reachable_of_mem_search {n : Nat} {stack visited : List Nat}
    (h : n ∈ g.search stack visited) : ∃ m ∈ stack, Relation.ReflTransGen g.Adj m n := by
  fun_induction g.search stack visited with
  | case1 => simp at h
  | case2 m stack visited hm ih =>
      obtain ⟨k, hk, hr⟩ := ih h
      exact ⟨k, List.mem_cons_of_mem m hk, hr⟩
  | case3 m stack visited hm ih =>
      rcases List.mem_cons.mp h with rfl | h
      · exact ⟨n, List.mem_cons_self, .refl⟩
      · obtain ⟨k, hk, hr⟩ := ih h
        rcases List.mem_append.mp hk with hk | hk
        · have hadj : g.Adj m k := (g.mem_unvisited.mp hk).1
          exact ⟨m, List.mem_cons_self, .head hadj hr⟩
        · exact ⟨k, List.mem_cons_of_mem m hk, hr⟩

/-! ## Everything that can be reached -/

/-- What stands on the stack of a search is visited by it or was visited before. -/
theorem mem_search_of_mem_stack {n : Nat} {stack visited : List Nat} (h : n ∈ stack) :
    n ∈ visited ∨ n ∈ g.search stack visited := by
  fun_induction g.search stack visited with
  | case1 => simp at h
  | case2 m stack visited hm ih =>
      rcases List.mem_cons.mp h with rfl | h
      · exact .inl hm
      · exact ih h
  | case3 m stack visited hm ih =>
      rcases List.mem_cons.mp h with rfl | h
      · exact .inr List.mem_cons_self
      · rcases ih (List.mem_append_right _ h) with hv | hs
        · rcases List.mem_cons.mp hv with rfl | hv
          · exact .inr List.mem_cons_self
          · exact .inl hv
        · exact .inr (List.mem_cons_of_mem m hs)

/-- A neighbour of a node that a search visits is visited by it or was visited before. -/
theorem mem_search_of_adj {m n : Nat} {stack visited : List Nat}
    (h : m ∈ g.search stack visited) (hadj : g.Adj m n) :
    n ∈ visited ∨ n ∈ g.search stack visited := by
  fun_induction g.search stack visited with
  | case1 => simp at h
  | case2 k stack visited hk ih => exact ih h
  | case3 k stack visited hk ih =>
      have key : n ∈ k :: visited ∨
          n ∈ g.search (g.unvisited k (k :: visited) ++ stack) (k :: visited) := by
        rcases List.mem_cons.mp h with rfl | h
        · by_cases hn : n ∈ m :: visited
          · exact .inl hn
          · exact g.mem_search_of_mem_stack
              (List.mem_append_left _ (g.mem_unvisited.mpr ⟨hadj, hn⟩))
        · exact ih h
      rcases key with hv | hs
      · rcases List.mem_cons.mp hv with rfl | hv
        · exact .inr List.mem_cons_self
        · exact .inl hv
      · exact .inr (List.mem_cons_of_mem k hs)

/-- A search from a node visits exactly what can be reached from it. -/
theorem mem_searchFrom {m n : Nat} :
    n ∈ g.searchFrom m ↔ Relation.ReflTransGen g.Adj m n := by
  constructor
  · intro h
    obtain ⟨k, hk, hr⟩ := g.reachable_of_mem_search h
    rw [List.mem_singleton] at hk
    exact hk ▸ hr
  · intro h
    induction h with
    | refl => exact (g.mem_search_of_mem_stack List.mem_cons_self).resolve_left List.not_mem_nil
    | tail _ hadj ih => exact (g.mem_search_of_adj ih hadj).resolve_left List.not_mem_nil

theorem nodup_searchFrom (n : Nat) : (g.searchFrom n).Nodup := g.nodup_search _ _

end Exposure.Graph
