import Exposure.File.System

/-!
# A tree of files

A system of files as a value.  A directory or a file is found by the names on the way from the root
to it; the way up from the root leads to the root.
-/

namespace Exposure

/-- What stands in a directory. -/
inductive FileEntry where
  | file (text : String)
  | directory
deriving DecidableEq, Repr

/-- Directories and files, found by the names on the way from the root. -/
structure FileTree where
  entries : List (List String × FileEntry)
  /-- The way to the working directory. -/
  working : List String
deriving DecidableEq, Repr

namespace FileTree

/-- A tree with nothing in it but the way to its working directory. -/
def empty (working : List String) : FileTree :=
  ⟨(List.range working.length).map fun n => (working.take (n + 1), .directory), working⟩

/-- What is found at a place. -/
def find? (t : FileTree) (place : List String) : Option FileEntry :=
  if place.isEmpty then some .directory else t.entries.lookup place

/-- Put something at a place. -/
def put (t : FileTree) (place : List String) (e : FileEntry) : FileTree :=
  { t with entries := (place, e) :: t.entries.filter (·.1 ≠ place) }

/-! ## Ways -/

/-- The greatest length of a name in bytes. -/
def maxName : Nat := 255

/-- The least length of a path in bytes that is too long. -/
def maxPath : Nat := 4096

/-- Go one step; it starts in a directory. -/
def step (t : FileTree) (place : List String) (name : String) :
    Except FileError (List String × FileEntry) :=
  if name = "." then .ok (place, .directory)
  else if name = ".." then .ok (place.dropLast, .directory)
  else if maxName < name.utf8ByteSize then .error .nameTooLong
  else
    match t.find? (place ++ [name]) with
    | some e => .ok (place ++ [name], e)
    | none => .error .notFound

/-- Go some steps, each of them in a directory. -/
def walk (t : FileTree) (place : List String) (e : FileEntry) :
    List String → Except FileError (List String × FileEntry)
  | [] => .ok (place, e)
  | name :: names =>
      match e with
      | .file _ => .error .notDirectory
      | .directory => do
          let (place, e) ← t.step place name
          walk t place e names

/-- The steps of a path. -/
def steps (path : String) : List String :=
  ((Path.pieces path.toList).filter (! ·.isEmpty)).map String.ofList

/-- Whether a slash stands at the end of a path. -/
def endsWithSlash (path : String) : Bool := path.toList.getLast? = some '/'

/-- Where a path starts. -/
def origin (t : FileTree) (path : String) : List String :=
  if Path.isAbsolute path then [] else t.working

/-- Check a path before any step is gone. -/
def checkPath (path : String) : Except FileError Unit :=
  if path.toList.contains '\x00' then .error .zeroInName
  else if path.isEmpty then .error .notFound
  else if maxPath ≤ path.utf8ByteSize then .error .nameTooLong
  else .ok ()

/-- Follow a path to the end.  What a slash stands behind must be a directory. -/
def follow (t : FileTree) (path : String) : Except FileError (List String × FileEntry) := do
  checkPath path
  let (place, e) ← t.walk (t.origin path) .directory (steps path)
  match e with
  | .file _ => if endsWithSlash path then throw .notDirectory
  | .directory => pure ()
  pure (place, e)

/-- Follow a path up to its last step, which must not lead into the directory itself or above it:
the directory, which exists, and the name in it. -/
def followToLast (t : FileTree) (path : String) (special : FileError) :
    Except FileError (List String × String) := do
  checkPath path
  match (steps path).getLast? with
  | none => throw special
  | some last =>
      let (place, e) ← t.walk (t.origin path) .directory (steps path).dropLast
      if e ≠ .directory then throw .notDirectory
      if last = "." || last = ".." then throw special
      pure (place, last)

/-! ## Operations -/

/-- The text of a file. -/
def readFile (t : FileTree) (path : String) : Except FileError String := do
  match (← t.follow path).2 with
  | .file text => pure text
  | .directory => throw .isDirectory

/-- Make a text the contents of a file. -/
def writeFile (t : FileTree) (path text : String) : Except FileError FileTree := do
  let (place, name) ← t.followToLast path .isDirectory
  if endsWithSlash path then throw .isDirectory
  if maxName < name.utf8ByteSize then throw .nameTooLong
  if t.find? (place ++ [name]) = some .directory then throw .isDirectory
  pure (t.put (place ++ [name]) (.file text))

/-- Create a directory. -/
def createDirectory (t : FileTree) (path : String) : Except FileError FileTree := do
  let (place, name) ← t.followToLast path .alreadyExists
  if maxName < name.utf8ByteSize then throw .nameTooLong
  if (t.find? (place ++ [name])).isSome then throw .alreadyExists
  pure (t.put (place ++ [name]) .directory)

/-- Whether a path leads to a directory. -/
def isDirectory (t : FileTree) (path : String) : Bool :=
  match t.follow path with
  | .ok (_, .directory) => true
  | _ => false

/-- The absolute path of a place. -/
def pathOf (place : List String) : String := "/" ++ "/".intercalate place

/-- Keep the tree that an operation gives. -/
def update (f : FileTree → Except FileError FileTree) : StateM FileTree (Except FileError Unit) :=
  fun t =>
    match f t with
    | .ok t => (.ok (), t)
    | .error e => (.error e, t)

instance : FileSystem (StateM FileTree) where
  readFile path := fun t => (t.readFile path, t)
  writeFile path text := update (·.writeFile path text)
  createDirectory path := update (·.createDirectory path)
  isDirectory path := fun t => (t.isDirectory path, t)
  workingDirectory := fun t => (.ok (pathOf t.working), t)

/-! ## Laws -/

@[simp] theorem find?_nil (t : FileTree) : t.find? [] = some .directory := rfl

/-- What was put at a place is found there. -/
theorem find?_put_self (t : FileTree) {place : List String} (h : place ≠ []) (e : FileEntry) :
    (t.put place e).find? place = some e := by
  cases place with
  | nil => exact absurd rfl h
  | cons n ns => simp [find?, put]

/-- What was found elsewhere is still found there. -/
theorem find?_put_of_ne (t : FileTree) {place other : List String} (h : other ≠ place)
    (e : FileEntry) : (t.put place e).find? other = t.find? other := by
  have hne : (other == place) = false := by simp [h]
  have hlookup (es : List (List String × FileEntry)) :
      (es.filter (·.1 ≠ place)).lookup other = es.lookup other := by
    induction es with
    | nil => rfl
    | cons x xs ih =>
        by_cases hx : x.1 = place
        · rw [List.filter_cons_of_neg (by simp [hx]), ih, List.lookup_cons, hx, hne]
        · rw [List.filter_cons_of_pos (by simp [hx]), List.lookup_cons, List.lookup_cons, ih]
  simp only [find?, put, List.lookup_cons, hne]
  rw [hlookup]

end FileTree

end Exposure
