import Exposure.Yaml.Tree
import Exposure.Yaml.Untyped

/-!
# Reading nodes of an expected form

A form reads a value from a node, or says where in the document the node is of another form.  The
innermost place is named.  A reference is read as the node that it stands for, at its own place; how
often references are followed is bounded by the size of the document.
-/

namespace Exposure.Yaml

open Document (Found Mismatch)

/-! ## Places -/

/-- A step from a node to one in it. -/
inductive PathStep where
  | key (name : String)
  /-- A value whose key is a reference. -/
  | unnamed
  | item (index : Nat)
deriving DecidableEq, Repr

/-- The text of a path, given by its last step first; the root has none. -/
def pathText : List PathStep → String
  | [] => ""
  | .item i :: path => pathText path ++ s!"[{i}]"
  | .key name :: path => inner path ++ name
  | .unnamed :: path => inner path ++ "?"
where
  /-- The text of a path in front of the name of a key. -/
  inner (path : List PathStep) : String := if path.isEmpty then "" else pathText path ++ "."

/-- Why no value can be read from a text. -/
inductive Fault where
  /-- The text is not one YAML document. -/
  | malformed (e : SyntaxError)
  /-- A node is not of the expected form. -/
  | mismatch (path : List PathStep) (m : Mismatch)
  /-- References were followed too often for a document of its size. -/
  | tooManyReferences
deriving DecidableEq, Repr

/-- The text of a fault: the place stands in front of a mismatch. -/
def Fault.message : Fault → String
  | malformed e => e.message
  | mismatch path m =>
      let text := m.message "unit value"
      if path.isEmpty then text else s!"{pathText path}: {text}"
  | tooManyReferences => "repetition limit exceeded"

/-- Where a node stands in a document. -/
structure Place where
  /-- The nodes with anchors and their numbers, the last one first. -/
  nodes : List (Nat × Node)
  /-- The path to the node, the last step first. -/
  path : List PathStep := []
  /-- The path that is named for a fault of a tag: that of the collection around the node, or that
  of the reference which stands for the node. -/
  outer : List PathStep := []

namespace Place

/-- The place one step further. -/
def down (p : Place) (step : PathStep) : Place :=
  { p with path := step :: p.path, outer := p.path }

/-- The place of the value under a key. -/
def under (p : Place) (key : Node) (name : String) : Place :=
  match key with
  | .reference _ => p.down .unnamed
  | _ => p.down (.key name)

/-- A mismatch at this place. -/
def wrong (p : Place) (m : Mismatch) : Fault := .mismatch p.path m

/-- A mismatch of the tag at this place. -/
def wrongTag (p : Place) (m : Mismatch) : Fault := .mismatch p.outer m

/-- Say that a node is not of the expected form. -/
def refuse (p : Place) (n : Node) (expected : String) : Fault :=
  match n with
  | .scalar tag style s => p.wrong (refuseScalar tag style s expected)
  | .sequence _ _ => p.wrong (.invalidType .sequence expected)
  | .mapping _ _ => p.wrong (.invalidType .mapping expected)
  | .reference _ => p.wrong (.invalidType .nothing expected)

end Place

/-! ## Following references -/

/-- Reading with so many references left that may be followed. -/
abbrev FormM := StateT Nat (Except Fault)

/-- Count a reference that is followed. -/
def countReference : FormM Unit := do
  match ← get with
  | 0 => throw .tooManyReferences
  | k + 1 => set k

/-- The node that a node stands for, and its place. -/
def Place.follow (p : Place) (n : Node) : FormM (Place × Node) :=
  match n with
  | .reference anchor => do
      countReference
      pure ({ p with outer := p.path }, (p.nodes.lookup anchor).getD n)
  | n => pure (p, n)

/-- A reader of nodes. -/
abbrev Form (α : Type) := Place → Node → FormM α

namespace Form

/-! ## Scalars and lists -/

/-- A text: every scalar is one, as it is written. -/
def text (expected : String) : Form String := fun p n => do
  let (p, n) ← p.follow n
  match n with
  | .scalar _ _ s => pure s
  | n => throw (p.refuse n expected)

/-- A boolean, which is not quoted. -/
def boolean : Form Bool := fun p n => do
  let (p, n) ← p.follow n
  match n with
  | .scalar tag style s =>
      if style = .plain || (style = .literal && tag = some Tag.boolean) then
        match boolean? s with
        | some b => pure b
        | none => throw (p.refuse n "a boolean")
      else throw (p.refuse n "a boolean")
  | n => throw (p.refuse n "a boolean")

/-- Whether a scalar stands for nothing where a value is optional. -/
def isNothing (p : Place) (tag : Option Tag) (style : ScalarStyle) (s : String) :
    Except Fault Bool :=
  if style ≠ .plain then .ok false
  else
    match tag with
    | none => .ok (s.isEmpty || isNullWord s)
    | some t =>
        if t ≠ Tag.nothing then .ok false
        else if isNullWord s then .ok true
        else .error (p.wrongTag (.invalidValue (.string s) "null"))

/-- An optional value.  A reference does not count as a place of its own here. -/
def optional (f : Form α) : Form (Option α) := fun p n => do
  let (_, n) ← p.follow n
  match n with
  | .scalar tag style s => if ← isNothing p tag style s then pure none else some <$> f p n
  | _ => some <$> f p n

/-- A list; an absent one is empty. -/
def list (f : Form α) : Form (List α) := fun p n => do
  let (p, n) ← p.follow n
  match n with
  | .sequence _ items => items.zipIdx.mapM fun (item, i) => f (p.down (.item i)) item
  | .scalar tag style s =>
      if style = .plain && s.isEmpty then pure []
      else throw (p.wrong (refuseScalar tag style s "a sequence"))
  | n => throw (p.refuse n "a sequence")

/-! ## Keywords -/

/-- The tag of a node. -/
def tag? : Node → Option Tag
  | .scalar tag _ _ => tag
  | .sequence tag _ => tag
  | .mapping tag _ => tag
  | .reference _ => none

/-- Check that nothing stands behind a tag. -/
def nothingBehind (p : Place) (n : Node) : Except Fault Unit :=
  match n with
  | .scalar _ style s =>
      if style = .plain && (s.isEmpty || isNullWord s) then .ok ()
      else .error (p.wrong (.invalidValue (.string s) "null"))
  | n => .error (p.refuse n "unit")

/-- One of several keywords, which is a text or a tag with nothing behind it. -/
def choice (ofKeyword? : String → Option α) (all : List String) : Form α := fun p n => do
  let (p, n) ← p.follow n
  match (tag? n).bind Tag.keyword?, n with
  | some word, n =>
      match ofKeyword? word with
      | some a =>
          nothingBehind p n
          pure a
      | none => throw (p.wrongTag (.unknownVariant word all))
  | none, .scalar _ _ s =>
      match ofKeyword? s with
      | some a => pure a
      | none => throw (p.wrong (.unknownVariant s all))
  | none, n => throw (p.refuse n "a YAML tag starting with '!'")

/-! ## Structures -/

/-- How the value of a key changes what has been read of a structure. -/
abbrev Setter (σ : Type) := String → Place → Node → σ → FormM σ

/-- Read the entries of a structure behind entries with the given keys. -/
def entries (keys : List String) (set : Setter σ) (p : Place) :
    List String → σ → List (Node × Node) → FormM σ
  | _, s, [] => pure s
  | seen, s, (k, v) :: rest => do
      let key ← text "field identifier" p k
      if key ∉ keys then throw (p.wrong (.unknownField key keys))
      if key ∈ seen then throw (p.wrong (.duplicateField key))
      let s ← set key (p.under k key) v s
      entries keys set p (key :: seen) s rest

/-- A structure with some keys, each given at most once; an absent one has no entries. -/
def fields (name : String) (keys : List String) (set : Setter σ) (start : σ) : Form σ :=
  fun p n => do
  let (p, n) ← p.follow n
  match n with
  | .mapping _ es => entries keys set p [] start es
  | .scalar tag style s =>
      if style = .plain && s.isEmpty then pure start
      else throw (p.wrong (refuseScalar tag style s s!"struct {name}"))
  | n => throw (p.refuse n s!"struct {name}")

/-- The value of a key that must be given. -/
def required (p : Place) (key : String) (value : Option α) : FormM α :=
  match value with
  | some a => pure a
  | none => throw (p.wrong (.missingField key))

/-! ## Texts -/

/-- How often a reference may be followed for each unit of the size of a document. -/
def referencesPerUnit : Nat := 100

/-- Read a text that is one document of the form. -/
def read (f : Form α) (source : String) : Except Fault α := do
  let tree ← (Tree.ofText source).mapError .malformed
  (f ⟨tree.nodes, [], []⟩ tree.root).run' (referencesPerUnit * tree.root.size)

end Form

end Exposure.Yaml
