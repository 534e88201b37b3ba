/-!
# Places in a source file, and failures of a front end

A front end reports where it failed as a file, a line and a column, when it can tell.
-/

namespace Exposure

/-- A stretch of one line: line and column count from one, the column and the length in bytes. -/
structure Span where
  line : Nat
  column : Nat
  length : Nat
deriving DecidableEq, Repr

/-- The text of a span names its start only. -/
def Span.display (s : Span) : String :=
  s!"{s.line}:{s.column}"

/-- A stretch of a line in a named file. -/
structure Location where
  file : String
  span : Span
deriving DecidableEq, Repr

/-- The text of a location. -/
def Location.display (l : Location) : String :=
  s!"{l.file}:{l.span.display}"

/-- A failure of a front end, with its place when the front end can tell. -/
structure ParseError where
  location : Option Location
  message : String
deriving DecidableEq, Repr

/-- The text of a failure: its place, if there is one, stands in front. -/
def ParseError.display (e : ParseError) : String :=
  match e.location with
  | some l => s!"{l.display}: {e.message}"
  | none => e.message

end Exposure
