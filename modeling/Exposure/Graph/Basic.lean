/-!
# Directed graphs

A graph lists the weights of its nodes and its edges, both in the order in which they were added; a
node is known by its place.  The neighbours of a node are the ends of the edges that leave it, those
of the latest edge first.
-/

namespace Exposure

/-- A directed graph whose nodes carry weights. -/
structure Graph (α : Type) where
  weights : List α
  /-- The edges, each from its start to its end. -/
  edges : List (Nat × Nat)
deriving DecidableEq, Repr

namespace Graph

variable {α : Type}

/-- The graph without nodes. -/
def empty : Graph α := ⟨[], []⟩

/-- The number of nodes. -/
def order (g : Graph α) : Nat := g.weights.length

/-- The weight of a node. -/
def weight? (g : Graph α) (n : Nat) : Option α := g.weights[n]?

/-- Add a node; its place is the number of nodes before it. -/
def addNode (g : Graph α) (a : α) : Nat × Graph α :=
  (g.order, { g with weights := g.weights ++ [a] })

/-- Add an edge between two nodes. -/
def addEdge (g : Graph α) (start stop : Nat) : Graph α :=
  { g with edges := g.edges ++ [(start, stop)] }

/-- The ends of the edges that leave a node, the latest first; an unknown node has none. -/
def neighbors (g : Graph α) (n : Nat) : List Nat :=
  ((g.edges.filter (·.1 = n)).map Prod.snd).reverse

@[simp] theorem weights_empty : (empty : Graph α).weights = [] := rfl

@[simp] theorem edges_empty : (empty : Graph α).edges = [] := rfl

@[simp] theorem weights_addNode (g : Graph α) (a : α) :
    (g.addNode a).2.weights = g.weights ++ [a] := rfl

@[simp] theorem edges_addNode (g : Graph α) (a : α) : (g.addNode a).2.edges = g.edges := rfl

@[simp] theorem weights_addEdge (g : Graph α) (m n : Nat) :
    (g.addEdge m n).weights = g.weights := rfl

@[simp] theorem edges_addEdge (g : Graph α) (m n : Nat) :
    (g.addEdge m n).edges = g.edges ++ [(m, n)] := rfl

/-- The neighbours of a node are the ends of the edges that leave it. -/
@[simp] theorem mem_neighbors (g : Graph α) (m n : Nat) :
    n ∈ g.neighbors m ↔ (m, n) ∈ g.edges := by
  simp only [neighbors, List.mem_reverse, List.mem_map, List.mem_filter, decide_eq_true_eq]
  constructor
  · rintro ⟨⟨a, b⟩, ⟨h, rfl⟩, rfl⟩
    exact h
  · intro h
    exact ⟨(m, n), ⟨h, rfl⟩, rfl⟩

end Graph

end Exposure
