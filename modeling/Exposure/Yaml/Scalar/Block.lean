import Exposure.Yaml.Cursor
import Exposure.Yaml.SyntaxError

/-!
# Block scalars

A block scalar is the indented text below its header.  A literal one keeps its line breaks, a folded
one replaces a single break between two lines that start with no blank by a space.  The header may
give the indentation and say what becomes of the line breaks at the end.
-/

namespace Exposure.Yaml

namespace Block

/-- What becomes of the line breaks at the end: all are dropped, the first stays, or all stay. -/
inductive Chomping where
  | strip
  | clip
  | keep
deriving DecidableEq, Repr

/-- The header of a block scalar; no increment means that the first line gives the indentation. -/
structure Header where
  chomping : Chomping := .clip
  increment : Option Nat := none
deriving DecidableEq, Repr

/-- The chomping that a character asks for. -/
def chomping? (c : Char) : Option Chomping :=
  if c = '+' then some .keep else if c = '-' then some .strip else none

/-- Read the digit of an increment, which is not zero, if one follows. -/
def increment (c : Cursor) : Except SyntaxError (Option Nat × Cursor) :=
  match c.rest with
  | d :: _ =>
      if d = '0' then .error .badBlockHeader
      else if d.isDigit then .ok (some (d.toNat - '0'.toNat), c.skip 1)
      else .ok (none, c)
  | [] => .ok (none, c)

/-- Read the chomping, if one follows. -/
def chomping (c : Cursor) : Option Chomping × Cursor :=
  match c.rest.head? >>= chomping? with
  | some k => (some k, c.skip 1)
  | none => (none, c)

/-- Read a header behind its indicator, with the comment and the line break behind it. -/
def header (c : Cursor) : Except SyntaxError (Header × Cursor) := do
  let (before, c) := chomping c
  let (inc, c) ← increment c
  let (after, c) := if before.isNone && inc.isSome then chomping c else (none, c)
  let c := c.skipComment
  if endsLine c.rest then
    pure (⟨(before <|> after).getD .clip, inc⟩, c.breakLine)
  else
    throw .badBlockHeader

/-- Line breaks in front of a line of the scalar. -/
structure Breaks where
  text : List Char
  /-- The greatest column that was reached. -/
  deepest : Nat
  cursor : Cursor
deriving DecidableEq, Repr

/-- Read empty lines and the indentation of the line behind them; without an indentation all spaces
count as indentation. -/
def breaks (indent : Option Nat) (text : List Char) (deepest : Nat) (c : Cursor) :
    Except SyntaxError Breaks :=
  let spaces := (c.front (· = ' ')).length
  let count := match indent with
    | some k => min spaces (k - c.column)
    | none => spaces
  let c' := c.skip count
  let deepest := max deepest c'.column
  if startsWith '\t' c'.rest && indent.all (c'.column < ·) then .error .tabInIndentation
  else if _ : c'.rest.head?.any isBreak = true then
    breaks indent (text ++ breakText c'.rest) deepest c'.breakLine
  else .ok ⟨text, deepest, c'⟩
termination_by c.rest.length
decreasing_by
  have hne : c'.rest ≠ [] := fun hnil => by simp_all
  exact Nat.lt_of_lt_of_le (c'.length_breakLine_lt hne) (c.length_skip_le count)

/-- The text of a block scalar without the line breaks at its end, the first of these breaks, those
behind it, and the place behind them. -/
structure Lines where
  text : List Char
  first : List Char
  later : List Char
  cursor : Cursor
deriving DecidableEq, Repr

/-- Read the lines of a scalar, at most so many, behind a line that may start with a blank. -/
def lines (literal : Bool) (indent : Nat) :
    Nat → Bool → Lines → Except SyntaxError Lines
  | 0, _, ls => .ok ls
  | n + 1, blank, ls =>
      let c := ls.cursor
      if c.column = indent && ! c.rest.isEmpty then do
        let blank' := c.rest.head?.any isBlank
        let joint :=
          if ! literal && startsWith '\n' ls.first && ! blank && ! blank' then
            (if ls.later.isEmpty then [' '] else [])
          else ls.first
        let line := c.front (! isBreak ·)
        let c := c.skipLine
        let first := breakText c.rest
        let c := if first.isEmpty then c else c.breakLine
        let b ← breaks (some indent) [] 0 c
        lines literal indent n blank'
          ⟨ls.text ++ joint ++ ls.later ++ line, first, b.text, b.cursor⟩
      else pure ls

/-- Read a scalar at its indicator, inside a block of the given indentation. -/
def read (literal : Bool) (parent : Int) (c : Cursor) :
    Except SyntaxError (List Char × Cursor) := do
  let (h, c) ← header (c.skip 1)
  let given := h.increment.map (parent.toNat + ·)
  let b ← breaks given [] 0 c
  let indent := given.getD (max (max b.deepest (parent + 1).toNat) 1)
  let ls ← lines literal indent (c.rest.length + 1) false ⟨[], [], b.text, b.cursor⟩
  let kept := match h.chomping with
    | .strip => []
    | .clip => ls.first
    | .keep => ls.first ++ ls.later
  pure (ls.text ++ kept, ls.cursor)

end Block

end Exposure.Yaml
