import Exposure.File.Path

/-!
# Files

The operations on files that a pass needs, for any system that has them, and why they fail.
-/

namespace Exposure

/-- Why an operation on a file fails. -/
inductive FileError where
  | notFound
  | alreadyExists
  | notDirectory
  | isDirectory
  | nameTooLong
  | zeroInName
  /-- Any other reason, in the words of the system. -/
  | other (text : String)
deriving DecidableEq, Repr

/-- The text of a failure. -/
def FileError.message : FileError → String
  | notFound => "No such file or directory (os error 2)"
  | alreadyExists => "File exists (os error 17)"
  | notDirectory => "Not a directory (os error 20)"
  | isDirectory => "Is a directory (os error 21)"
  | nameTooLong => "File name too long (os error 36)"
  | zeroInName => "file name contained an unexpected NUL byte"
  | other text => text

/-- A system of files; relative paths start at its working directory. -/
class FileSystem (m : Type → Type) where
  /-- The text of a file. -/
  readFile : String → m (Except FileError String)
  /-- Make a text the contents of a file, which is created if it does not exist. -/
  writeFile : String → String → m (Except FileError Unit)
  /-- Create a directory in a directory that exists. -/
  createDirectory : String → m (Except FileError Unit)
  /-- Whether a path leads to a directory. -/
  isDirectory : String → m Bool
  /-- The absolute path of the working directory. -/
  workingDirectory : m (Except FileError String)

namespace FileSystem

variable {m : Type → Type} [Monad m] [FileSystem m]

/-- A path and the directories above it, at most so many, the path first. -/
def ancestors : Nat → String → List String
  | 0, path => [path]
  | n + 1, path =>
      match Path.parent? path with
      | some p => path :: ancestors n p
      | none => [path]

/-- Create a directory; one that exists already is fine. -/
def ensureDirectory (path : String) : m (Except FileError Unit) := do
  match ← createDirectory path with
  | .ok () => pure (.ok ())
  | .error e => if ← isDirectory path then pure (.ok ()) else pure (.error e)

/-- Create the first of some directories, each of which lies in the next one. -/
def createChain : List String → m (Except FileError Unit)
  | [] => pure (.ok ())
  | path :: above => do
      if path.isEmpty then return .ok ()
      match ← createDirectory path with
      | .error .notFound =>
          match ← createChain above with
          | .ok () => ensureDirectory path
          | .error e => pure (.error e)
      | .ok () => pure (.ok ())
      | .error e => if ← isDirectory path then pure (.ok ()) else pure (.error e)

/-- Create a directory with all directories above it. -/
def createDirectories (path : String) : m (Except FileError Unit) :=
  createChain (ancestors path.length path)

/-- Create the directory of a path, if it has one. -/
def createParent (path : String) : m (Except FileError Unit) :=
  match Path.parent? path with
  | some directory => createDirectories directory
  | none => pure (.ok ())

end FileSystem

/-- A system of files stays one beside a state. -/
instance {m : Type → Type} {σ : Type} [Monad m] [FileSystem m] : FileSystem (StateT σ m) where
  readFile path := liftM (FileSystem.readFile path : m _)
  writeFile path text := liftM (FileSystem.writeFile path text : m _)
  createDirectory path := liftM (FileSystem.createDirectory path : m _)
  isDirectory path := liftM (FileSystem.isDirectory path : m _)
  workingDirectory := liftM (FileSystem.workingDirectory : m _)

end Exposure
