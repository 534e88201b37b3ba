import Exposure.Yaml.Node

/-!
# Trees of documents

A text holds one document.  Directives may stand in front of it; they define handles of tags.  The
root of an empty text is absent.
-/

namespace Exposure.Yaml

/-- The tree of a document. -/
structure Tree where
  root : Node
  /-- The nodes with anchors and their numbers, the last one first. -/
  nodes : List (Nat × Node) := []
deriving Repr

namespace Tree

/-- The handles of tags that every document knows. -/
def standardHandles : List (String × Tag) := [("!", [Tag.mark]), ("!!", Tag.standard)]

/-- What the directives in front of a document say. -/
structure Directives where
  versioned : Bool := false
  handles : List (String × Tag) := []
deriving DecidableEq, Repr

/-- Read the directives in front of a document, none of them twice, with the handles of tags that
they define. -/
def directives (d : Directives) :
    List Token → Except SyntaxError (Directives × List Token)
  | .versionDirective major minor :: ts =>
      if d.versioned || major ≠ 1 || (minor ≠ 1 && minor ≠ 2) then .error .badDirective
      else directives { d with versioned := true } ts
  | .tagDirective handle expansion :: ts =>
      if d.handles.any (·.1 = handle) then .error .badDirective
      else directives { d with handles := d.handles ++ [(handle, expansion)] } ts
  | ts => .ok (d, ts)

/-- Whether a token announces a document. -/
def announces : Token → Bool
  | .versionDirective _ _ => true
  | .tagDirective _ _ => true
  | .documentStart => true
  | _ => false

/-- Whether a token stands outside of documents. -/
def isOutside (t : Token) : Bool := announces t || t = .documentEnd || t = .streamEnd

/-- Read the root of a document that may be announced. -/
def readRoot (bound : Nat) : ReaderM Node := do
  let t ← Reader.peek
  if t = .streamEnd then
    pure .absent
  else if announces t then
    let (d, ts) ← directives {} (← get).tokens
    modify fun r => { r with tokens := ts, handles := d.handles ++ r.handles }
    if (← Reader.peek) ≠ .documentStart then throw .unexpectedToken
    Reader.skip
    if isOutside (← Reader.peek) then pure .absent else Reader.node bound true false
  else Reader.node bound true false

/-- Check that nothing but marks of its end stands behind a document. -/
def checkEnd (ts : List Token) : Except SyntaxError Unit :=
  if ts.dropWhile (· = .documentEnd) = [.streamEnd] then .ok () else .error .moreThanOneDocument

/-- Read the tree of a text. -/
def ofText (text : String) : Except SyntaxError Tree := do
  let ts ← tokens text
  let (n, r) ← (readRoot (4 * ts.length + 8)).run { tokens := ts, handles := standardHandles }
  checkEnd r.tokens
  pure ⟨n, r.nodes.reverse⟩

end Tree

end Exposure.Yaml
