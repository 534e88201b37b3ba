import Exposure.Catalog.Containment
import Exposure.Policy.Rule

/-!
# Matching rules

A matcher finds the entities of a catalog that a rule matches.  A target reaches the entities that
it names and, below a class that it names, everything at any depth; a name is looked up in the index
of the catalog, a glob is tried on every written name.  The written names are built for the first
glob and kept for the later ones.
-/

namespace Exposure

/-- What a matcher keeps from one rule to the next. -/
structure Matcher where
  /-- The written names of the entities, once a glob has asked for them. -/
  written : Option (List String) := none
deriving DecidableEq, Repr

namespace Matcher

/-- The kinds that a rule for an access level hides. -/
def accessKinds : KindSet := .members

/-- The kinds whose members are matched with them. -/
def expandingKinds : KindSet := .singleton .classType

/-- The written names of the entities, in their order. -/
def names (c : Catalog) (m : Matcher) : List String × Matcher :=
  match m.written with
  | some ns => (ns, m)
  | none =>
      let ns := c.iter.map fun x => x.2.name.display
      (ns, ⟨some ns⟩)

/-- The entities that a target names by themselves. -/
def named (c : Catalog) (m : Matcher) : Target → List EntityId × Matcher
  | .exact q => ((c.lookup q).toList, m)
  | .glob pattern =>
      let (ns, m) := m.names c
      ((ns.zipIdx.filter fun x => pattern.isMatch x.1).map Prod.snd, m)

/-- An entity and, when it is a class, everything below it. -/
def withMembers (c : Catalog) (i : EntityId) : List EntityId :=
  i :: if (c.get? i).any fun e => expandingKinds.has e.kind then c.membersTransitive i else []

/-- The entities that a target reaches, in the order of the catalog. -/
def reached (c : Catalog) (m : Matcher) (t : Target) : List EntityId × Matcher :=
  let (roots, m) := m.named c t
  ((roots.flatMap (withMembers c)).mergeSort.eraseReps, m)

/-- The entities that a rule matches, in the order of the catalog. -/
def matched (c : Catalog) (m : Matcher) : Rule → List EntityId × Matcher
  | .defaultDeny => (c.iter.map Prod.fst, m)
  | .expose target | .hide target => m.reached c target
  | .hideAccess access =>
      ((c.iter.filter fun x => accessKinds.has x.2.kind && x.2.access = access).map Prod.fst, m)

end Matcher

end Exposure
