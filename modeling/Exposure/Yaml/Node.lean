import Exposure.Yaml.Token.Stream

/-!
# Nodes

A document is a tree of scalars, sequences and mappings.  A node may carry an anchor, and a later
reference stands for that node.  The tree is read from the tokens of the text.

An anchor is numbered by the names that were known before it.  A name that is given again counts as
known, so its new number may be given to the next new name as well; the last node of a number is the
one that a reference stands for.
-/

namespace Exposure.Yaml

/-- A node of a document. -/
inductive Node where
  | scalar (tag : Option Tag) (style : ScalarStyle) (text : String)
  | sequence (tag : Option Tag) (items : List Node)
  | mapping (tag : Option Tag) (entries : List (Node × Node))
  /-- The node with the anchor of a number. -/
  | reference (anchor : Nat)
deriving Repr

/-- The scalar that an absent node is. -/
def Node.absent : Node := .scalar none .plain ""

mutual

/-- The size of a node: a collection counts twice, for its start and its end, and each node in it
counts too. -/
def Node.size : Node → Nat
  | .scalar _ _ _ => 1
  | .sequence _ items => 2 + itemsSize items
  | .mapping _ entries => 2 + entriesSize entries
  | .reference _ => 1

/-- The size of the items of a sequence. -/
def itemsSize : List Node → Nat
  | [] => 0
  | n :: ns => n.size + itemsSize ns

/-- The size of the entries of a mapping. -/
def entriesSize : List (Node × Node) → Nat
  | [] => 0
  | (k, v) :: es => k.size + v.size + entriesSize es

end

/-- What a reader of nodes has before it. -/
structure Reader where
  /-- The tokens that are left. -/
  tokens : List Token
  /-- What the handles of tags stand for. -/
  handles : List (String × Tag) := []
  /-- The names of anchors with their numbers, each name once. -/
  anchors : List (String × Nat) := []
  /-- The nodes with anchors and their numbers, in the order in which they start. -/
  nodes : List (Nat × Node) := []
deriving Repr

/-- Reading from the tokens that are left. -/
abbrev ReaderM := StateT Reader (Except SyntaxError)

namespace Reader

/-- The next token. -/
def peek : ReaderM Token := do
  match (← get).tokens with
  | t :: _ => pure t
  | [] => throw .unexpectedToken

/-- Pass over the next token. -/
def skip : ReaderM Unit := modify fun r => { r with tokens := r.tokens.drop 1 }

/-! ## Properties of nodes -/

/-- The anchor and the tag of a node. -/
structure Properties where
  anchor : Option String := none
  tag : Option (Option String × Tag) := none
deriving DecidableEq, Repr

/-- An anchor and a tag at the front, in either order. -/
def propertiesOf : List Token → Properties × List Token
  | .anchor a :: .tag h s :: ts => (⟨some a, some (h, s)⟩, ts)
  | .anchor a :: ts => (⟨some a, none⟩, ts)
  | .tag h s :: .anchor a :: ts => (⟨some a, some (h, s)⟩, ts)
  | .tag h s :: ts => (⟨none, some (h, s)⟩, ts)
  | ts => ({}, ts)

/-- Read an anchor and a tag, in either order. -/
def properties : ReaderM Properties := do
  let (p, ts) := propertiesOf (← get).tokens
  modify fun r => { r with tokens := ts }
  pure p

/-- The tag that a handle and a suffix stand for. -/
def expand : Option String × Tag → ReaderM Tag
  | (none, suffix) => pure suffix
  | (some handle, suffix) => do
      match (← get).handles.lookup handle with
      | some text => pure (text ++ suffix)
      | none => throw .undefinedHandle

/-- Number an anchor, and give the place of its node among the nodes with anchors. -/
def note (name : String) : ReaderM Nat := do
  let r ← get
  let number := r.anchors.length
  set { r with
    anchors := (name, number) :: r.anchors.filter (·.1 ≠ name)
    nodes := r.nodes ++ [(number, Node.absent)] }
  pure r.nodes.length

/-- Keep a node with an anchor at its place. -/
def keep (place : Nat) (n : Node) : ReaderM Unit :=
  modify fun r => { r with nodes := r.nodes.modify place fun e => (e.1, n) }

/-- The node that a name refers to. -/
def reference (name : String) : ReaderM Node := do
  match (← get).anchors.lookup name with
  | some anchor => pure (.reference anchor)
  | none => throw .undefinedAnchor

/-! ## Nodes

Each reader takes a bound for the depth of calls, which the number of tokens gives.
-/

mutual

/-- Read a node.  Block collections are allowed outside of flow collections, and a sequence that is
not indented is allowed as a value. -/
def node : Nat → Bool → Bool → ReaderM Node
  | 0, _, _ => throw .unexpectedToken
  | n + 1, block, unindented => do
      match ← peek with
      | .reference name =>
          skip
          reference name
      | _ =>
          let p ← properties
          let tag ← p.tag.mapM expand
          let bare := p.anchor.isNone && p.tag.isNone
          match p.anchor with
          | none => content n block unindented bare tag
          | some name =>
              let place ← note name
              let x ← content n block unindented bare tag
              keep place x
              pure x

/-- Read what stands behind the properties of a node; nothing at all may stand there if the node has
properties. -/
def content : Nat → Bool → Bool → Bool → Option Tag → ReaderM Node
  | 0, _, _, _, _ => throw .unexpectedToken
  | n + 1, block, unindented, bare, tag => do
      match ← peek with
      | .scalar style text =>
          skip
          pure (.scalar tag style text)
      | .flowSequenceStart =>
          skip
          pure (.sequence tag (← flowItems n true))
      | .flowMappingStart =>
          skip
          pure (.mapping tag (← flowEntries n true))
      | t =>
          if unindented && t = .blockEntry then
            pure (.sequence tag (← unindentedItems n))
          else if block && t = .blockSequenceStart then
            skip
            pure (.sequence tag (← blockItems n))
          else if block && t = .blockMappingStart then
            skip
            pure (.mapping tag (← blockEntries n))
          else if bare then throw .unexpectedToken
          else pure (.scalar tag .plain "")

/-- Read a node unless one of the given tokens shows that it is absent. -/
def nodeUnless : Nat → Bool → Bool → List Token → ReaderM Node
  | 0, _, _, _ => throw .unexpectedToken
  | n + 1, block, unindented, ends => do
      if (← peek) ∈ ends then pure .absent else node n block unindented

/-- Read a value behind its indicator; without one it is absent. -/
def valueNode : Nat → Bool → List Token → ReaderM Node
  | 0, _, _ => throw .unexpectedToken
  | n + 1, block, ends => do
      match ← peek with
      | .value =>
          skip
          nodeUnless n block block ends
      | _ => pure .absent

/-- Read the items of a block sequence up to its end. -/
def blockItems : Nat → ReaderM (List Node)
  | 0 => throw .unexpectedToken
  | n + 1 => do
      match ← peek with
      | .blockEntry =>
          skip
          let x ← nodeUnless n true false [.blockEntry, .blockEnd]
          pure (x :: (← blockItems n))
      | .blockEnd =>
          skip
          pure []
      | _ => throw .unexpectedToken

/-- Read the items of a sequence that is not indented. -/
def unindentedItems : Nat → ReaderM (List Node)
  | 0 => throw .unexpectedToken
  | n + 1 => do
      match ← peek with
      | .blockEntry =>
          skip
          let x ← nodeUnless n true false [.blockEntry, .key, .value, .blockEnd]
          pure (x :: (← unindentedItems n))
      | _ => pure []

/-- Read the entries of a block mapping up to its end. -/
def blockEntries : Nat → ReaderM (List (Node × Node))
  | 0 => throw .unexpectedToken
  | n + 1 => do
      match ← peek with
      | .key =>
          skip
          let k ← nodeUnless n true true [.key, .value, .blockEnd]
          let v ← valueNode n true [.key, .value, .blockEnd]
          pure ((k, v) :: (← blockEntries n))
      | .blockEnd =>
          skip
          pure []
      | _ => throw .unexpectedToken

/-- Read the items of a flow sequence up to its end; an item behind another one follows a comma, and
a comma may stand behind the last one. -/
def flowItems : Nat → Bool → ReaderM (List Node)
  | 0, _ => throw .unexpectedToken
  | n + 1, first => do
      if ! first && (← peek) = .flowEntry then skip
      else if ! first && (← peek) ≠ .flowSequenceEnd then throw .unexpectedToken
      match ← peek with
      | .flowSequenceEnd =>
          skip
          pure []
      | .key =>
          skip
          let x ← flowPair n
          pure (x :: (← flowItems n false))
      | _ =>
          let x ← node n false false
          pure (x :: (← flowItems n false))

/-- Read the only entry of a mapping in a flow sequence, behind the indicator of its key.  When the
key is absent the token that shows this is passed over. -/
def flowPair : Nat → ReaderM Node
  | 0 => throw .unexpectedToken
  | n + 1 => do
      if (← peek) ∈ [Token.value, .flowEntry, .flowSequenceEnd] then
        skip
        let v ← valueNode n false [.flowEntry, .flowSequenceEnd]
        pure (.mapping none [(.absent, v)])
      else
        let k ← node n false false
        let v ← valueNode n false [.flowEntry, .flowSequenceEnd]
        pure (.mapping none [(k, v)])

/-- Read the entries of a flow mapping up to its end; an entry behind another one follows a comma,
and a comma may stand behind the last one. -/
def flowEntries : Nat → Bool → ReaderM (List (Node × Node))
  | 0, _ => throw .unexpectedToken
  | n + 1, first => do
      if ! first && (← peek) = .flowEntry then skip
      else if ! first && (← peek) ≠ .flowMappingEnd then throw .unexpectedToken
      match ← peek with
      | .flowMappingEnd =>
          skip
          pure []
      | .key =>
          skip
          let k ← nodeUnless n false false [.value, .flowEntry, .flowMappingEnd]
          let v ← valueNode n false [.flowEntry, .flowMappingEnd]
          pure ((k, v) :: (← flowEntries n false))
      | _ =>
          let k ← node n false false
          pure ((k, .absent) :: (← flowEntries n false))

end

end Reader

end Exposure.Yaml
