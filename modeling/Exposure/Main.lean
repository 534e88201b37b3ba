import Exposure.Command.Run

/-!
# The program

The command line on the files of the system.
-/

namespace Exposure

/-- The failure that an error of the system is. -/
def FileError.ofSystem : IO.Error → FileError
  | .noFileOrDirectory .. => .notFound
  | .alreadyExists .. => .alreadyExists
  | .inappropriateType _ code _ => if code = 21 then .isDirectory else .notDirectory
  | .userError text => .other text
  | e => .other (toString e)

/-- The result of an operation of the system. -/
def FileError.catching (x : IO α) : IO (Except FileError α) := do
  match ← x.toBaseIO with
  | .ok a => pure (.ok a)
  | .error e => pure (.error (.ofSystem e))

instance : FileSystem IO where
  readFile path := FileError.catching (IO.FS.readFile path)
  writeFile path text := FileError.catching (IO.FS.writeFile path text)
  createDirectory path := FileError.catching (IO.FS.createDir path)
  isDirectory path := do
    match ← (IO.FS.realPath path).toBaseIO with
    | .ok place => place.isDir
    | .error _ => pure false
  workingDirectory := FileError.catching do
    let place ← IO.currentDir
    pure place.toString

end Exposure

/-- Run the command line. -/
def main (arguments : List String) : IO UInt32 := do
  let outcome ← Exposure.Command.runArguments arguments
  IO.print outcome.output
  match outcome.error with
  | some text => IO.eprint text
  | none => pure ()
  pure outcome.code.toUInt32
