import Exposure.Access
import Exposure.Graph.Search
import Exposure.Kind
import Exposure.Name.Index

/-!
# Catalogs of declarations

A catalog lists the declarations that a front end found, each at most once and each after the
declaration that encloses it.  An entity is known by its place in the list.  Beside the list a
catalog keeps an index of the names and a graph of the containment, with one node for each entity
and one edge from each scope to each of its members.

`Catalog.add` accepts an entity when its name is new, its scope is known and its access level fits:
methods and fields live only in classes, and exactly what lives in a class has an access level.
-/

namespace Exposure

/-- The place of an entity in its catalog. -/
abbrev EntityId := Nat

/-- The text of an id in messages. -/
def EntityId.display (i : EntityId) : String := s!"entity_{i}"

/-- One declaration, with the id of the declaration that encloses it. -/
structure Entity where
  name : QualifiedName
  kind : EntityKind
  access : Access
  scope : Option EntityId
deriving DecidableEq, Repr

/-- Whether the entity lives only inside a class and obeys access rules. -/
def Entity.isMember (e : Entity) : Bool := e.kind.isMember

/-- The declarations of one pass. -/
structure Catalog where
  /-- The entities, in the order in which they were added. -/
  entities : List Entity
  /-- The ids of the names. -/
  index : NameIndex
  /-- The containment: an edge leads from a scope to each of its members. -/
  containment : Graph EntityId
deriving DecidableEq, Repr

/-! ## Why an entity is refused -/

/-- What a refused entity names as its scope. -/
inductive ScopeRef where
  | id (i : EntityId)
  | name (q : QualifiedName)
deriving DecidableEq, Repr

/-- Why an access level does not fit an entity. -/
inductive AccessProblem where
  /-- A method or a field stands outside of every class. -/
  | outsideClass (kind : EntityKind)
  /-- A class member has no access level. -/
  | levelMissing
  /-- Something that is not a class member has an access level. -/
  | levelUnexpected (access : Access)
  /-- A front end refused the level with a text of its own. -/
  | reported (reason : String)
deriving DecidableEq, Repr

/-- The text of an access problem. -/
def AccessProblem.message : AccessProblem → String
  | outsideClass kind => s!"a {kind.keyword} must be declared inside a class"
  | levelMissing => "class members need a public, protected or private access level"
  | levelUnexpected access => s!"only class members can be {access.display}"
  | reported reason => reason

/-- Why an entity is refused. -/
inductive CatalogError where
  | duplicateEntity (entity : QualifiedName)
  | unknownScope (entity : QualifiedName) (scope : ScopeRef)
  | invalidAccess (entity : QualifiedName) (problem : AccessProblem)
deriving DecidableEq, Repr

/-- The text of a scope reference. -/
def ScopeRef.display : ScopeRef → String
  | id i => i.display
  | name q => q.display

/-- The text of a refusal. -/
def CatalogError.message : CatalogError → String
  | duplicateEntity entity => s!"duplicate entity: {entity.display}"
  | unknownScope entity scope =>
      s!"entity '{entity.display}' refers to unknown scope '{scope.display}'"
  | invalidAccess entity problem => s!"entity '{entity.display}': {problem.message}"

namespace Catalog

/-! ## Look-up -/

/-- The catalog without entities. -/
def empty : Catalog := ⟨[], .empty, .empty⟩

/-- The number of entities. -/
def size (c : Catalog) : Nat := c.entities.length

/-- Whether there are no entities. -/
def isEmpty (c : Catalog) : Bool := c.entities.isEmpty

/-- The entity of an id. -/
def get? (c : Catalog) (i : EntityId) : Option Entity := c.entities[i]?

/-- The id of a name. -/
def lookup (c : Catalog) (q : QualifiedName) : Option EntityId := c.index.get? q

/-- The entities with their ids, in their order. -/
def iter (c : Catalog) : List (EntityId × Entity) := c.entities.mapIdx fun i e => (i, e)

/-- The scope of the entity of an id. -/
def scope? (c : Catalog) (i : EntityId) : Option EntityId := (c.get? i).bind Entity.scope

/-! ## Growth -/

/-- Why an access level does not fit an entity of a kind inside or outside of a class. -/
def accessProblem? (kind : EntityKind) (access : Access) (inClass : Bool) :
    Option AccessProblem :=
  if kind.isMember && !inClass then
    some (.outsideClass kind)
  else if inClass && !access.isSpecifier then
    some .levelMissing
  else if !inClass && access.isSpecifier then
    some (.levelUnexpected access)
  else
    none

/-- Why an entity is refused, if it is. -/
def refusal? (c : Catalog) (e : Entity) : Option CatalogError :=
  if c.index.contains e.name then
    some (.duplicateEntity e.name)
  else
    match e.scope with
    | some s =>
        match c.get? s with
        | some parent =>
            (accessProblem? e.kind e.access (parent.kind = .classType)).map (.invalidAccess e.name)
        | none => some (.unknownScope e.name (.id s))
    | none => (accessProblem? e.kind e.access false).map (.invalidAccess e.name)

/-- Put an entity at the end of all three parts. -/
def insert (c : Catalog) (e : Entity) : Catalog :=
  let (node, containment) := c.containment.addNode c.size
  { entities := c.entities ++ [e]
    index := c.index.insert e.name c.size
    containment :=
      match e.scope with
      | some s => containment.addEdge s node
      | none => containment }

/-- Add an entity at the end; its id is the number of entities before it. -/
def add (c : Catalog) (e : Entity) : Except CatalogError (EntityId × Catalog) :=
  match c.refusal? e with
  | some err => .error err
  | none => .ok (c.size, c.insert e)

/-- Add an entity inside the entity of an id, named relative to it; the text is taken as one
segment. -/
def addMember (c : Catalog) (parent : EntityId) (name : String) (kind : EntityKind)
    (access : Access) : Except CatalogError (EntityId × Catalog) :=
  match c.get? parent with
  | some p => c.add ⟨p.name.child name, kind, access, some parent⟩
  | none => .error (.unknownScope (.top name) (.id parent))

/-! ## Calls -/

/-- A call that asks for one more entity. -/
inductive Call where
  | add (e : Entity)
  | addMember (parent : EntityId) (name : String) (kind : EntityKind) (access : Access)
deriving DecidableEq, Repr

/-- What a call answers: the id of the new entity and the catalog with it, or why it is refused. -/
def attempt (c : Catalog) : Call → Except CatalogError (EntityId × Catalog)
  | .add e => c.add e
  | .addMember parent name kind access => c.addMember parent name kind access

/-- The catalog after a call; a refused call leaves it as it was. -/
def after (c : Catalog) (x : Call) : Catalog :=
  match c.attempt x with
  | .ok (_, c') => c'
  | .error _ => c

/-- The catalog that a sequence of calls builds, the refused ones among them passed over. -/
def build (calls : List Call) : Catalog := calls.foldl after empty

/-! ## Small facts -/

@[simp] theorem size_empty : empty.size = 0 := rfl

@[simp] theorem get?_empty (i : EntityId) : empty.get? i = none := rfl

@[simp] theorem entities_insert (c : Catalog) (e : Entity) :
    (c.insert e).entities = c.entities ++ [e] := rfl

@[simp] theorem size_insert (c : Catalog) (e : Entity) : (c.insert e).size = c.size + 1 := by
  simp [size]

@[simp] theorem lookup_insert (c : Catalog) (e : Entity) (q : QualifiedName) :
    (c.insert e).lookup q = if e.name = q then some c.size else c.lookup q :=
  NameIndex.get?_insert ..

@[simp] theorem weights_insert (c : Catalog) (e : Entity) :
    (c.insert e).containment.weights = c.containment.weights ++ [c.size] := by
  unfold insert
  cases e.scope <;> rfl

/-- The edge of a new entity comes from its scope. -/
@[simp] theorem edges_insert (c : Catalog) (e : Entity) :
    (c.insert e).containment.edges =
      c.containment.edges ++ (e.scope.map fun s => (s, c.containment.order)).toList := by
  unfold insert
  cases e.scope
  · simp
  · rfl

/-- An id is known exactly when it is below the number of entities. -/
theorem get?_isSome_iff (c : Catalog) (i : EntityId) : (c.get? i).isSome ↔ i < c.size := by
  simp [get?, size]

theorem lt_size_iff {c : Catalog} {i : EntityId} : i < c.size ↔ ∃ e, c.get? i = some e := by
  rw [← c.get?_isSome_iff, Option.isSome_iff_exists]

@[simp] theorem iter_insert (c : Catalog) (e : Entity) :
    (c.insert e).iter = c.iter ++ [(c.size, e)] := by
  simp [iter, List.mapIdx_concat, size]

@[simp] theorem length_iter (c : Catalog) : c.iter.length = c.size := by
  simp [iter, size]

theorem getElem?_iter (c : Catalog) (i : EntityId) :
    c.iter[i]? = (c.get? i).map fun e => (i, e) := by
  simp [iter, get?]

theorem mem_iter {c : Catalog} {i : EntityId} {e : Entity} :
    (i, e) ∈ c.iter ↔ c.get? i = some e := by
  simp [iter, List.mem_mapIdx, get?, List.getElem?_eq_some_iff]

/-- The ids are dense. -/
@[simp] theorem map_fst_iter (c : Catalog) : c.iter.map Prod.fst = List.range c.size := by
  apply List.ext_getElem
  · simp
  · intro i _ _
    simp [iter]

@[simp] theorem map_snd_iter (c : Catalog) : c.iter.map Prod.snd = c.entities := by
  apply List.ext_getElem?
  intro i
  simp [iter, Function.comp_def]

theorem map_name_iter (c : Catalog) :
    (c.iter.map fun x => x.2.name) = c.entities.map Entity.name := by
  rw [← map_snd_iter, List.map_map]
  rfl

/-- An accepted entity stands at the end of the catalog. -/
theorem add_eq_ok_iff (c : Catalog) (e : Entity) (r : EntityId × Catalog) :
    c.add e = .ok r ↔ c.refusal? e = none ∧ r = (c.size, c.insert e) := by
  unfold add
  cases h : c.refusal? e <;> simp [eq_comm]

/-- A refused entity is refused for the one reason that `refusal?` gives. -/
theorem add_eq_error_iff (c : Catalog) (e : Entity) (err : CatalogError) :
    c.add e = .error err ↔ c.refusal? e = some err := by
  unfold add
  cases h : c.refusal? e <;> simp

end Catalog

end Exposure
