import Exposure.ConfigurationError

/-!
# Globs

In a glob, `*` stands for any run of characters of one line, `?` for one character of one line, and
every other character for itself.  A glob matches a whole text.  Matching keeps one row of answers,
one for every rest of the glob, and works through the text from its end, so its cost is the product
of the two lengths.
-/

namespace Exposure

/-- A glob as it is written. -/
structure Glob where
  source : String
deriving DecidableEq, Repr

namespace Glob

/-- Whether a character of a glob stands for other characters. -/
def isWildcard (c : Char) : Bool := c = '*' || c = '?'

/-- Whether a wildcard may stand for the character: it stays on one line. -/
def inLine (c : Char) : Bool := c ≠ '\n'

/-- The answers for the empty text: the first for the whole glob, the next for its rest, and so on;
the last is for the empty glob. -/
def startRow : List Char → List Bool
  | [] => [true]
  | p :: ps =>
      let row := startRow ps
      (p = '*' && row.headD false) :: row

/-- The answers for a text with one more character in front, from those for the text. -/
def stepRow (c : Char) : List Char → List Bool → List Bool
  | [], _ => [false]
  | p :: ps, old =>
      let row := stepRow c ps old.tail
      let here :=
        if p = '*' then row.headD false || (inLine c && old.headD false)
        else if p = '?' then inLine c && old.tail.headD false
        else p = c && old.tail.headD false
      here :: row

/-- The answers for a text. -/
def row (ps : List Char) : List Char → List Bool
  | [] => startRow ps
  | c :: cs => stepRow c ps (row ps cs)

/-- Whether the characters of a glob match a whole text. -/
def matchChars (ps cs : List Char) : Bool := (row ps cs).headD false

/-- Whether a glob matches a whole text. -/
def isMatch (g : Glob) (s : String) : Bool := matchChars g.source.toList s.toList

/-! ## Size

A glob is refused when an automaton for it would be too large.  There are two of them: one reads the
bytes of a text forwards and one reads them backwards.  A state takes 32 bytes, each way on from a
state takes 8 bytes more if it is for a range of bytes and 4 if it is free.
-/

/-- The size of the state of an automaton in bytes. -/
def stateSize : Nat := 32

/-- The size of a choice between two free ways on, which repeats what stands behind it or leaves
it. -/
def repeatSize : Nat := stateSize + 2 * 4

/-- The size of a part that reads one character of a line forwards: the states behind the first byte
are shared, which leaves nine states with seventeen ranges of bytes. -/
def forwardCharSize : Nat := 9 * stateSize + 17 * 8

/-- The size of a part that reads one character of a line backwards: ten forms of characters with 28
ranges of bytes, each a state of its own, between a choice of ten free ways on and an end. -/
def backwardCharSize : Nat := (28 + 2) * stateSize + 10 * 4

/-- The size of the part of an automaton for a character of a glob, where the part for one character
of a line has the given size; another character takes a state for each byte. -/
def partSize (charSize : Nat) (c : Char) : Nat :=
  if c = '?' then charSize
  else if c = '*' then charSize + repeatSize
  else c.utf8Size * stateSize

/-- The size of the automaton that reads forwards; it has a start, an end, a state for each end of
the text and one for each end of what is matched. -/
def forwardSize (cs : List Char) : Nat :=
  6 * stateSize + cs.foldr (fun c n => partSize forwardCharSize c + n) 0

/-- The size of the automaton that reads backwards; it does not tell where the match lies. -/
def backwardSize (cs : List Char) : Nat :=
  4 * stateSize + cs.foldr (fun c n => partSize backwardCharSize c + n) 0

/-- The greatest size of an automaton in bytes. -/
def maxSize : Nat := 10 <<< 20

/-- Whether both automata of a glob are small enough. -/
def fits (cs : List Char) : Bool := forwardSize cs ≤ maxSize && backwardSize cs ≤ maxSize

/-- Why a glob that is too large is refused. -/
def tooLarge : String := s!"Compiled regex exceeds size limit of {maxSize} bytes."

/-- Read a glob; one that is too large is refused. -/
def ofString (s : String) : Except ConfigurationError Glob :=
  if fits s.toList then .ok ⟨s⟩ else .error (.invalidPattern ⟨s, tooLarge⟩)

/-! ## Small facts -/

@[simp] theorem length_startRow (ps : List Char) : (startRow ps).length = ps.length + 1 := by
  induction ps with
  | nil => rfl
  | cons p ps ih => simp [startRow, ih]

@[simp] theorem length_stepRow (c : Char) (ps : List Char) (old : List Bool) :
    (stepRow c ps old).length = ps.length + 1 := by
  induction ps generalizing old with
  | nil => rfl
  | cons p ps ih => simp [stepRow, ih]

/-- A glob that is read is the text itself. -/
theorem source_of_ofString {s : String} {g : Glob} (h : ofString s = .ok g) : g.source = s := by
  unfold ofString at h
  split at h
  · cases h; rfl
  · cases h

end Glob

end Exposure
