import Exposure.Catalog.Dump
import Exposure.File.System
import Exposure.Location

/-!
# Front ends

A front end is asked to parse the generated header and answers with a catalog.  One that replays a
dump does not look at the header.
-/

namespace Exposure

/-- What a front end is asked to parse. -/
structure ParseRequest where
  /-- The text of the generated header. -/
  header : String
  /-- Where the header was written, if it was. -/
  headerPath : Option String
  includePaths : List String
deriving DecidableEq, Repr

/-- A front end. -/
abbrev FrontEnd (m : Type → Type) := ParseRequest → m (Except ParseError Catalog)

namespace FrontEnd

/-- The place of a fault in a dump; lines and columns are 32-bit numbers. -/
def dumpError (file : String) (f : Dump.Failure) : ParseError :=
  let (message, position) := f.report
  ⟨some ⟨file, position.line % 1 <<< 32, position.column % 1 <<< 32, 0⟩, message⟩

/-- The catalog of a dump; the name of the dump stands in front of faults. -/
def readDump (file text : String) : Except ParseError Catalog :=
  (Dump.read text).mapError (dumpError file)

variable {m : Type → Type} [Monad m]

/-- The front end that replays a dump. -/
def ofDump (text : String) : FrontEnd m := fun _ => pure (readDump "<catalog>" text)

/-- The front end that replays the dump in a file. -/
def ofDumpFile [FileSystem m] (path : String) : FrontEnd m := fun _ => do
  match ← FileSystem.readFile path with
  | .ok text => pure (readDump path text)
  | .error e => pure (.error ⟨none, s!"{path}: {e.message}"⟩)

end FrontEnd

end Exposure
