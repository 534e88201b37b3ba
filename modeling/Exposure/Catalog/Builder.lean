import Exposure.Catalog.Basic

/-!
# Building a catalog in place

A builder changes its catalog part by part: the graph first, then the index, then the list of the
entities.  A refusal undoes nothing; what was changed in front of it stays changed.  So it matters
that an entity is checked before the first part is touched.  The main statement says that in place a
call answers as it does on values, and leaves the catalog that it leaves there.
-/

namespace Exposure

/-- Work on a catalog in place, which may be refused. -/
abbrev Builder := ExceptT CatalogError (StateM Catalog)

namespace Builder

variable {α β : Type}

/-- What the work answers when it starts from a catalog, and the catalog that it leaves. -/
def runIn (x : Builder α) (c : Catalog) : Except CatalogError α × Catalog := x.run.run c

/-! ## Parts of the work -/

/-- Refuse an entity with which something is wrong. -/
def check (e : Entity) : Builder Unit := do
  if let some err := (← get).refusal? e then
    throw err

/-- Add the node of an entity to the graph. -/
def addNode (i : EntityId) : Builder Nat :=
  modifyGet fun c =>
    let (node, containment) := c.containment.addNode i
    (node, { c with containment })

/-- Add the edge from a scope to a member to the graph. -/
def addEdge (s : EntityId) (node : Nat) : Builder Unit :=
  modify fun c => { c with containment := c.containment.addEdge s node }

/-- Put the name of an entity into the index. -/
def addName (q : QualifiedName) (i : EntityId) : Builder Unit :=
  modify fun c => { c with index := c.index.insert q i }

/-- Put an entity at the end of the list. -/
def addEntity (e : Entity) : Builder Unit :=
  modify fun c => { c with entities := c.entities ++ [e] }

/-- Put an entity into all three parts; its id is the number of entities before it. -/
def enter (e : Entity) : Builder EntityId := do
  let i := (← get).size
  let node ← addNode i
  if let some s := e.scope then
    addEdge s node
  addName e.name i
  addEntity e
  pure i

/-! ## Calls -/

/-- Add an entity at the end. -/
def add (e : Entity) : Builder EntityId := do
  check e
  enter e

/-- Add an entity inside the entity of an id, named relative to it; the text is taken as one
segment. -/
def addMember (parent : EntityId) (name : String) (kind : EntityKind) (access : Access) :
    Builder EntityId := do
  match (← get).get? parent with
  | some p => add ⟨p.name.child name, kind, access, some parent⟩
  | none => throw (.unknownScope (.top name) (.id parent))

/-- Make a call. -/
def call : Catalog.Call → Builder EntityId
  | .add e => add e
  | .addMember parent name kind access => addMember parent name kind access

/-! ## Small facts -/

section Facts

variable {x : Builder α} {f : α → Builder β} {c c' : Catalog} {a : α} {err : CatalogError}
  (e : Entity)

/-- After a success the next part runs from where the first has stopped. -/
theorem runIn_bind_of_ok (h : x.runIn c = (.ok a, c')) : (x >>= f).runIn c = (f a).runIn c' := by
  rw [runIn, ExceptT.run_bind, StateT.run_bind, show x.run.run c = (.ok a, c') from h]
  rfl

/-- After a refusal nothing runs. -/
theorem runIn_bind_of_error (h : x.runIn c = (.error err, c')) :
    (x >>= f).runIn c = (.error err, c') := by
  rw [runIn, ExceptT.run_bind, StateT.run_bind, show x.run.run c = (.error err, c') from h]
  rfl

theorem runIn_get_bind {f : Catalog → Builder β} : (get >>= f).runIn c = (f c).runIn c := rfl

/-- The check changes nothing. -/
theorem runIn_check_of_some (h : c.refusal? e = some err) :
    (check e).runIn c = (.error err, c) := by
  rw [check, runIn_get_bind, h]
  rfl

theorem runIn_check_of_none (h : c.refusal? e = none) : (check e).runIn c = (.ok (), c) := by
  rw [check, runIn_get_bind, h]
  rfl

/-- All parts together are changed as the entity is inserted. -/
theorem runIn_enter : (enter e).runIn c = (.ok c.size, c.insert e) := by
  rw [enter, runIn_get_bind, Catalog.insert]
  cases e.scope <;> rfl

theorem runIn_add (e : Entity) (c : Catalog) :
    (add e).runIn c =
      match c.add e with
      | .ok (i, c') => (.ok i, c')
      | .error err => (.error err, c) := by
  rw [add, Catalog.add]
  cases h : c.refusal? e with
  | some err => rw [runIn_bind_of_error (runIn_check_of_some e h)]
  | none => rw [runIn_bind_of_ok (runIn_check_of_none e h), runIn_enter]

/-- In place a call answers as it does on values, and leaves the catalog that it leaves there. -/
theorem runIn_call (x : Catalog.Call) (c : Catalog) :
    (call x).runIn c = ((c.attempt x).map Prod.fst, c.after x) := by
  have hcall : (call x).runIn c =
      match c.attempt x with
      | .ok (i, c') => (.ok i, c')
      | .error err => (.error err, c) := by
    cases x with
    | add e => exact runIn_add e c
    | addMember parent name kind access =>
        rw [call, addMember, runIn_get_bind, Catalog.attempt, Catalog.addMember]
        cases c.get? parent with
        | none => rfl
        | some p => exact runIn_add _ c
  rw [hcall, Catalog.after]
  cases c.attempt x <;> rfl

end Facts

end Builder

end Exposure
