import Exposure.Text.Bytes

/-!
# Places in a YAML text

A cursor is a place in a text together with what is left there.  It counts bytes, lines and columns;
a column is a character, and a carriage return that a line feed follows breaks one line.
-/

namespace Exposure.Yaml

/-! ## Classes of characters -/

/-- The blanks within a line. -/
def isBlank (c : Char) : Bool := c = ' ' || c = '\t'

/-- The characters that break a line. -/
def isBreak (c : Char) : Bool :=
  c = '\n' || c = '\r' || c = '\u0085' || c = '\u2028' || c = '\u2029'

/-- The characters of names: of anchors, directives and handles of tags. -/
def isNameChar (c : Char) : Bool := c.isAlphanum || c = '_' || c = '-'

/-- The characters that may stand in a text. -/
def isPrintable (c : Char) : Bool :=
  let n := c.toNat
  n = 0x09 || n = 0x0a || n = 0x0d || (0x20 ≤ n && n ≤ 0x7e) || n = 0x85 ||
    (0xa0 ≤ n && n ≤ 0xd7ff) || (0xe000 ≤ n && n ≤ 0xfffd) || 0x10000 ≤ n

/-- Whether a text is at its end or at a line break. -/
def endsLine : List Char → Bool
  | [] => true
  | c :: _ => isBreak c

/-- Whether a text is at its end, at a line break or at a blank. -/
def endsWord : List Char → Bool
  | [] => true
  | c :: _ => isBlank c || isBreak c

/-- Whether a text starts with a character. -/
def startsWith (c : Char) : List Char → Bool
  | [] => false
  | d :: _ => d = c

/-- The text that a line break stands for: itself where it separates lines or paragraphs, else a
line feed. -/
def breakText : List Char → List Char
  | c :: _ =>
      if c = '\u2028' || c = '\u2029' then [c] else if isBreak c then ['\n'] else []
  | [] => []

/-! ## Cursors -/

/-- A place in a text and what is left there. -/
structure Cursor where
  rest : List Char
  /-- The number of bytes before the place. -/
  index : Nat
  line : Nat
  column : Nat
deriving DecidableEq, Repr

namespace Cursor

/-- The start of a text. -/
def start (cs : List Char) : Cursor := ⟨cs, 0, 0, 0⟩

/-- Pass over some characters of a line. -/
def skip (c : Cursor) (n : Nat) : Cursor :=
  ⟨c.rest.drop n, c.index + Text.byteLength (c.rest.take n), c.line, c.column + n⟩

/-- Pass over a line break. -/
def breakLine (c : Cursor) : Cursor :=
  match c.rest with
  | '\r' :: '\n' :: rest => ⟨rest, c.index + 2, c.line + 1, 0⟩
  | d :: rest => ⟨rest, c.index + d.utf8Size, c.line + 1, 0⟩
  | [] => c

/-- The characters of a kind at the front. -/
def front (c : Cursor) (p : Char → Bool) : List Char := c.rest.takeWhile p

/-- Pass over the characters of a kind at the front. -/
def skipWhile (c : Cursor) (p : Char → Bool) : Cursor := c.skip (c.front p).length

/-- Pass over a mark of the byte order, which may start a line and takes a column there. -/
def skipOrderMark (c : Cursor) : Cursor :=
  if c.column = 0 && startsWith '\ufeff' c.rest then c.skip 1 else c

/-- Pass over what is left of a line. -/
def skipLine (c : Cursor) : Cursor := c.skipWhile (! isBreak ·)

/-- Pass over blanks and a comment behind them. -/
def skipComment (c : Cursor) : Cursor :=
  let c := c.skipWhile isBlank
  if startsWith '#' c.rest then c.skipLine else c

/-- Whether the line starts with the mark of the start or the end of a document. -/
def atDocumentMark (c : Cursor) : Bool :=
  c.column = 0 &&
    match c.rest with
    | '-' :: '-' :: '-' :: rest => endsWord rest
    | '.' :: '.' :: '.' :: rest => endsWord rest
    | _ => false

@[simp] theorem rest_skip (c : Cursor) (n : Nat) : (c.skip n).rest = c.rest.drop n := rfl

/-- Passing over characters leaves no more than there was. -/
theorem length_skip_le (c : Cursor) (n : Nat) : (c.skip n).rest.length ≤ c.rest.length := by
  simp

/-- Passing over a line break leaves less, unless nothing was left. -/
theorem length_breakLine_lt (c : Cursor) (h : c.rest ≠ []) :
    c.breakLine.rest.length < c.rest.length := by
  unfold breakLine
  split
  · next hr =>
      simp only [hr, List.length_cons]
      omega
  · next hr =>
      simp only [hr, List.length_cons]
      omega
  · next hr => exact absurd hr h

end Cursor

end Exposure.Yaml
