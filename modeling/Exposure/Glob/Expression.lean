import Exposure.Glob

/-!
# Regular expressions of globs

A glob is compiled by way of a regular expression.  Each of its characters gives a part of the text
of the expression, and two anchors hold the expression to the whole of what it is tried on.  Of the
language of expressions only what these texts use is read here; a text that uses more is not read.
-/

namespace Exposure

namespace Regex

/-- What an expression is made of. -/
inductive Item where
  /-- The start of the text. -/
  | start
  /-- The end of the text. -/
  | stop
  /-- One character of a line. -/
  | any
  /-- A character itself. -/
  | literal (c : Char)
  /-- An item, any number of times. -/
  | repeated (item : Item)
deriving DecidableEq, Repr

/-! ## Text -/

/-- Whether a character has a meaning of its own in the text of an expression. -/
def isMeta (c : Char) : Bool :=
  c ∈ ['\\', '.', '+', '*', '?', '(', ')', '|', '[', ']', '{', '}', '^', '$', '#', '&', '-', '~']

/-- The text that stands for a character itself. -/
def escape (c : Char) : List Char := if isMeta c then ['\\', c] else [c]

/-- Read the rest of a text; the items in front of it are given from the last to the first. -/
def readItems : List Item → List Char → Option (List Item)
  | done, [] => some done.reverse
  | done, '\\' :: c :: cs => if isMeta c then readItems (.literal c :: done) cs else none
  | item :: done, '*' :: cs => readItems (.repeated item :: done) cs
  | done, '^' :: cs => readItems (.start :: done) cs
  | done, '$' :: cs => readItems (.stop :: done) cs
  | done, '.' :: cs => readItems (.any :: done) cs
  | done, c :: cs => if isMeta c then none else readItems (.literal c :: done) cs

/-- The items of an expression. -/
def items? (expression : String) : Option (List Item) := readItems [] expression.toList

/-! ## Meaning -/

/-- Items read a piece of a text one behind the other, between what stands before the piece and what
stands behind it. -/
inductive Reads : List Item → List Char → List Char → List Char → Prop where
  | nil {before after : List Char} : Reads [] before [] after
  | start {items : List Item} {piece after : List Char} (h : Reads items [] piece after) :
      Reads (.start :: items) [] piece after
  | stop {items : List Item} {before : List Char} (h : Reads items before [] []) :
      Reads (.stop :: items) before [] []
  | any {items : List Item} {before piece after : List Char} {c : Char} (hc : c ≠ '\n')
      (h : Reads items (before ++ [c]) piece after) :
      Reads (.any :: items) before (c :: piece) after
  | literal {items : List Item} {before piece after : List Char} {c : Char}
      (h : Reads items (before ++ [c]) piece after) :
      Reads (.literal c :: items) before (c :: piece) after
  | repeatedNone {item : Item} {items : List Item} {before piece after : List Char}
      (h : Reads items before piece after) : Reads (.repeated item :: items) before piece after
  | repeatedMore {item : Item} {items : List Item} {before piece after : List Char}
      (h : Reads (item :: .repeated item :: items) before piece after) :
      Reads (.repeated item :: items) before piece after

/-- An expression is found in a text when it reads some piece of it. -/
def Finds (expression text : String) : Prop :=
  ∃ items, items? expression = some items ∧
    ∃ before piece after, text.toList = before ++ piece ++ after ∧ Reads items before piece after

end Regex

namespace Glob

/-- The part of an expression for a character of a glob. -/
def expressionPart (p : Char) : List Char :=
  if p = '*' then ['.', '*'] else if p = '?' then ['.'] else Regex.escape p

/-- The expression of a glob. -/
def expression (g : Glob) : String :=
  String.ofList ('^' :: g.source.toList.flatMap expressionPart ++ ['$'])

end Glob

end Exposure
