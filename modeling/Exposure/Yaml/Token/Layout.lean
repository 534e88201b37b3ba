import Exposure.Yaml.Cursor
import Exposure.Yaml.SyntaxError
import Exposure.Yaml.Token.Basic

/-!
# The layout of a text

What a reader of tokens has to know about the text before its place: the indentation of the open
blocks, the open flow collections, and on each level the token that may turn out to be a key.  A key
is known only by the colon behind it; the token that announces it is then put in front of the key.
-/

namespace Exposure.Yaml

/-- A token that is a key if a colon follows. -/
structure PossibleKey where
  /-- The number of tokens in front of it. -/
  number : Nat
  /-- Whether it must be a key, since the block is a mapping. -/
  required : Bool
  /-- Where the token starts, in bytes. -/
  index : Nat
  line : Nat
  column : Nat
deriving DecidableEq, Repr

/-- The state of a reader of tokens. -/
structure Layout where
  cursor : Cursor
  /-- Whether a key may start here. -/
  keyAllowed : Bool := true
  /-- The indentation of the innermost block; outside of all blocks it is negative. -/
  indent : Int := -1
  /-- The indentations of the blocks around it. -/
  outerIndents : List Int := []
  /-- The possible key of the innermost level. -/
  possible : Option PossibleKey := none
  /-- The possible keys of the levels around it, one for each open flow collection. -/
  outerKeys : List (Option PossibleKey) := []
  /-- The tokens that have been read, the last one first. -/
  tokens : List Token := []
  /-- The number of these tokens. -/
  count : Nat := 0
deriving DecidableEq, Repr

namespace Layout

/-- Whether a flow collection is open. -/
def inFlow (l : Layout) : Bool := ! l.outerKeys.isEmpty

/-- Add a token. -/
def push (l : Layout) (t : Token) : Layout :=
  { l with tokens := t :: l.tokens, count := l.count + 1 }

/-- Put a token behind so many tokens. -/
def insert (l : Layout) (number : Nat) (t : Token) : Layout :=
  let later := l.count - number
  { l with tokens := l.tokens.take later ++ t :: l.tokens.drop later, count := l.count + 1 }

/-! ## Possible keys -/

/-- Whether it is too late for a colon behind a possible key, which must stand on the same line and
at most 1024 bytes behind its start. -/
def isStale (c : Cursor) (k : PossibleKey) : Bool := k.line < c.line || k.index + 1024 < c.index

/-- Forget a possible key for which it is too late. -/
def refresh (c : Cursor) : Option PossibleKey → Except SyntaxError (Option PossibleKey)
  | none => .ok none
  | some k =>
      if isStale c k then (if k.required then .error .missingColon else .ok none) else .ok (some k)

/-- Forget all possible keys for which it is too late. -/
def dropStale (l : Layout) : Except SyntaxError Layout := do
  let possible ← refresh l.cursor l.possible
  let outerKeys ← l.outerKeys.mapM (refresh l.cursor)
  pure { l with possible, outerKeys }

/-- Forget the possible key of the innermost level. -/
def dropKey (l : Layout) : Except SyntaxError Layout :=
  if l.possible.any (·.required) then .error .missingColon else .ok { l with possible := none }

/-- Note that the next token may be a key. -/
def noteKey (l : Layout) : Except SyntaxError Layout := do
  if l.keyAllowed then
    let l ← l.dropKey
    pure { l with
      possible := some
        { number := l.count
          required := ! l.inFlow && l.indent = l.cursor.column
          index := l.cursor.index
          line := l.cursor.line
          column := l.cursor.column } }
  else pure l

/-! ## Blocks -/

/-- Close the blocks that are indented more than a column; the indentations are given from the
innermost block on. -/
def closeTo (column : Int) : List Int → Layout → Layout
  | [], l => l
  | i :: is, l =>
      if column < l.indent then
        closeTo column is ({ l with indent := i, outerIndents := is }.push .blockEnd)
      else l

/-- Close the blocks that are indented more than a column; none is closed in a flow collection. -/
def closeBlocks (l : Layout) (column : Int) : Layout :=
  if l.inFlow then l else closeTo column l.outerIndents l

/-- Open a block at a column if it is indented more than the innermost one; `add` adds its token. -/
def openBlock (l : Layout) (column : Nat) (add : Layout → Layout) : Layout :=
  if ! l.inFlow && l.indent < column then
    add { l with indent := column, outerIndents := l.indent :: l.outerIndents }
  else l

/-! ## Moving on -/

/-- Move the cursor. -/
def moved (l : Layout) (c : Cursor) : Layout := { l with cursor := c }

/-- Pass over an indicator of so many characters, which is a token. -/
def indicator (l : Layout) (length : Nat) (t : Token) : Layout :=
  (l.moved (l.cursor.skip length)).push t

/-- Allow keys from here on, or forbid them. -/
def allowKey (l : Layout) (allowed : Bool) : Layout := { l with keyAllowed := allowed }

/-- Pass over marks of the byte order, blanks, comments and line breaks, for at most so many lines.
A tab is a blank where no key can start; a line break outside of flow collections allows a key. -/
def skipGap : Nat → Layout → Layout
  | 0, l => l
  | n + 1, l =>
      let tabs := l.inFlow || ! l.keyAllowed
      let c := l.cursor.skipOrderMark.skipWhile fun d => d = ' ' || (tabs && d = '\t')
      let c := if startsWith '#' c.rest then c.skipLine else c
      if c.rest.head?.any isBreak then
        skipGap n { l with cursor := c.breakLine, keyAllowed := l.keyAllowed || ! l.inFlow }
      else l.moved c

end Layout

end Exposure.Yaml
