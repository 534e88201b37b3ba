import Exposure.Catalog.Basic

/-!
# Containment

Containment can be followed upwards, from an entity to the scopes around it, and downwards, from a
scope to the entities in it.  The walk up reads the scope of one entity after the other and keeps no
account of where it has been; the walk down searches the graph of the containment.
-/

namespace Exposure.Catalog

/-- Climb from an id through the scopes around it until a scope is met.  There is no answer when the
climb does not end. -/
def climb (c : Catalog) (s : EntityId) : Option EntityId → Option Bool
  | none => some false
  | some i => if i = s then some true else c |>.climb s (c.scope? i)
partial_fixpoint

/-- Whether an entity lies in a scope, at any depth. -/
def isMemberOf? (c : Catalog) (i s : EntityId) : Option Bool := c.climb s (c.scope? i)

/-- The entities whose scope is the given one, in the order of the catalog. -/
def members (c : Catalog) (s : EntityId) : List EntityId :=
  ((c.containment.neighbors s).filterMap c.containment.weight?).mergeSort

/-- The entities below a scope, at any depth, in the order of the catalog. -/
def membersTransitive (c : Catalog) (s : EntityId) : List EntityId :=
  if (c.get? s).isSome then
    (((c.containment.searchFrom s).filter (· ≠ s)).filterMap c.containment.weight?).mergeSort
  else
    []

/-! ## Small facts -/

@[simp] theorem climb_none (c : Catalog) (s : EntityId) : c.climb s none = some false := by
  rw [climb]

@[simp] theorem climb_some (c : Catalog) (s i : EntityId) :
    c.climb s (some i) = if i = s then some true else c.climb s (c.scope? i) := by
  rw [climb]

end Exposure.Catalog
