import Exposure.Json.Written
import Exposure.Resolution

/-!
# The exposed surface and its manifest

A backend is given the exposed surface of a pass: the module, the catalog and the decisions.  The
manifest is the artifact that lists this surface, each entity with the rule that exposed it.
-/

namespace Exposure

/-- What a pass hands to a backend. -/
structure Surface where
  moduleName : String
  catalog : Catalog
  resolution : Resolution
deriving Repr

/-- A generated file, named relative to the directory of the artifacts. -/
structure Artifact where
  name : String
  contents : String
deriving DecidableEq, Repr

namespace Surface

/-- The exposed entities, in the order of the catalog. -/
def entities (s : Surface) : List Entity :=
  (s.catalog.iter.filter fun x => (s.resolution.decisionFor? x.1).any Decision.exposed).map Prod.snd

/-- The number of exposed entities. -/
def size (s : Surface) : Nat := s.resolution.exposedCount

/-- Whether nothing is exposed. -/
def isEmpty (s : Surface) : Bool := s.size = 0

/-! ## The manifest -/

/-- One entity of a manifest. -/
structure ManifestEntry where
  name : QualifiedName
  kind : EntityKind
  access : Access
  rule : Nat
deriving DecidableEq, Repr

/-- The entry of an entity; only an exposed one has an entry. -/
def manifestEntry? (s : Surface) (i : EntityId) (e : Entity) : Option ManifestEntry :=
  ((s.resolution.decisionFor? i).filter Decision.exposed).map fun d =>
    ⟨e.name, e.kind, e.access, d.ruleIndex⟩

/-- The entries of the manifest, in the order of the catalog. -/
def manifestEntries (s : Surface) : List ManifestEntry :=
  s.catalog.iter.filterMap fun x => s.manifestEntry? x.1 x.2

/-- The document of an entry. -/
def ManifestEntry.toTree (m : ManifestEntry) : Json.Tree :=
  .object [("name", .text m.name.display), ("kind", .text m.kind.keyword),
    ("access", .text m.access.keyword), ("rule", .number m.rule)]

/-- The document of the manifest. -/
def manifestTree (s : Surface) : Json.Tree :=
  .object [("module", .text s.moduleName),
    ("entities", .list (s.manifestEntries.map ManifestEntry.toTree))]

/-- The name of the manifest of a module. -/
def manifestName (moduleName : String) : String := moduleName ++ ".manifest.json"

/-- The manifest: an indented document that ends with a newline. -/
def manifest (s : Surface) : Artifact :=
  ⟨manifestName s.moduleName, s.manifestTree.pretty 0 ++ "\n"⟩

end Surface

end Exposure
