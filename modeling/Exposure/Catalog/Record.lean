import Exposure.Catalog.Basic

/-!
# Records of a dump

A dump lists the entities of a catalog with their scopes given by name instead of by id.  Reading a
dump adds its records one after the other, so the first record that does not fit decides the error.
-/

namespace Exposure

/-- One entity of a dump. -/
structure EntityRecord where
  name : QualifiedName
  kind : EntityKind
  access : Access
  scope : Option QualifiedName
deriving DecidableEq, Repr

namespace Catalog

/-- The record of an entity. -/
def recordOf (c : Catalog) (e : Entity) : EntityRecord :=
  ⟨e.name, e.kind, e.access, (e.scope.bind c.get?).map Entity.name⟩

/-- The records of a catalog, in the order of its entities. -/
def toRecords (c : Catalog) : List EntityRecord :=
  c.entities.map c.recordOf

/-- Add the entity of a record; its scope must be the name of an earlier entity. -/
def addRecord (c : Catalog) (r : EntityRecord) : Except CatalogError Catalog :=
  match r.scope with
  | none => (c.add ⟨r.name, r.kind, r.access, none⟩).map Prod.snd
  | some q =>
      match c.lookup q with
      | some s => (c.add ⟨r.name, r.kind, r.access, some s⟩).map Prod.snd
      | none => .error (.unknownScope r.name (.name q))

/-- The catalog of the listed records. -/
def ofRecords (rs : List EntityRecord) : Except CatalogError Catalog :=
  rs.foldlM addRecord empty

@[simp] theorem ofRecords_nil : ofRecords [] = .ok empty := rfl

@[simp] theorem length_toRecords (c : Catalog) : c.toRecords.length = c.size := by
  simp [toRecords, size]

end Catalog

end Exposure
