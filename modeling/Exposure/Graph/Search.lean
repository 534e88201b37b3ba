import Exposure.Graph.Basic

/-!
# Depth-first search

A search keeps a stack of nodes to look at and the nodes that it has visited.  It takes the top of
the stack, passes over it if it was visited before, and otherwise visits it and puts its neighbours
that were not visited onto the stack.  It ends because every edge is put onto the stack at most
once: when the node is visited that the edge leaves.
-/

namespace Exposure.Graph

variable {α : Type}

/-- The edges that leave nodes which have not been visited. -/
def pending (g : Graph α) (visited : List Nat) : List (Nat × Nat) :=
  g.edges.filter (·.1 ∉ visited)

/-- The neighbours of a node that a search puts onto its stack, the top first. -/
def unvisited (g : Graph α) (n : Nat) (visited : List Nat) : List Nat :=
  ((g.neighbors n).filter (· ∉ visited)).reverse

/-- Visiting a node takes the edges that leave it from the pending ones. -/
theorem length_pending_cons (g : Graph α) {n : Nat} {visited : List Nat} (h : n ∉ visited) :
    (g.pending (n :: visited)).length + (g.neighbors n).length = (g.pending visited).length := by
  simp only [pending, neighbors, List.length_reverse, List.length_map]
  induction g.edges with
  | nil => rfl
  | cons e es ih =>
      rcases e with ⟨a, b⟩
      by_cases he : a = n
      · subst he
        simp [h] at ih ⊢
        omega
      · by_cases hv : a ∈ visited
        · simpa [he, hv] using ih
        · simp [he, hv] at ih ⊢
          omega

theorem length_unvisited_le (g : Graph α) (n : Nat) (visited : List Nat) :
    (g.unvisited n visited).length ≤ (g.neighbors n).length := by
  simpa [unvisited] using List.length_filter_le _ _

/-- The nodes that a search visits from a stack, in the order in which it visits them. -/
def search (g : Graph α) : List Nat → List Nat → List Nat
  | [], _ => []
  | n :: stack, visited =>
      if n ∈ visited then g.search stack visited
      else n :: g.search (g.unvisited n (n :: visited) ++ stack) (n :: visited)
termination_by stack visited => stack.length + (g.pending visited).length
decreasing_by
  · simp
  · have hp := g.length_pending_cons ‹n ∉ visited›
    have hu := g.length_unvisited_le n (n :: visited)
    simp only [List.length_append, List.length_cons]
    omega

/-- The nodes that can be reached from a node, itself included. -/
def searchFrom (g : Graph α) (n : Nat) : List Nat := g.search [n] []

end Exposure.Graph
