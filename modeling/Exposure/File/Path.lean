/-!
# Paths as text

A path is a text whose components are separated by slashes.  Joining and taking the directory are
done on the text: neither `.` nor `..` is resolved.
-/

namespace Exposure.Path

/-- Whether a path starts at the root. -/
def isAbsolute (path : String) : Bool := path.toList.head? = some '/'

/-- Cut a text at each slash. -/
def pieces : List Char → List (List Char)
  | [] => [[]]
  | c :: cs => if c = '/' then [] :: pieces cs else (pieces cs).modifyHead (c :: ·)

/-- The pieces that name something: empty ones and `.` do not. -/
def names (piece : List Char) : Bool := ! piece.isEmpty && piece ≠ ['.']

/-- A path below another one; an absolute path stands for itself. -/
def join (base path : String) : String :=
  if isAbsolute path then path
  else if base.isEmpty || base.toList.getLast? = some '/' then base ++ path
  else base ++ "/" ++ path

/-- A path split behind its root or behind a `.` in front. -/
def splitHead : List Char → List Char × List Char
  | '/' :: cs => (['/'], cs)
  | ['.'] => (['.'], [])
  | '.' :: '/' :: cs => (['.'], '/' :: cs)
  | cs => ([], cs)

/-- Drop the last pieces as long as they name nothing. -/
def dropNameless (ps : List (List Char)) : List (List Char) :=
  (ps.reverse.dropWhile (! names ·)).reverse

/-- The directory of a path: the text in front of its last component.  Neither the root nor the
empty path has one. -/
def parent? (path : String) : Option String :=
  let (head, body) := splitHead path.toList
  match dropNameless (pieces body) with
  | [] => if head = ['.'] then some "" else none
  | p :: ps =>
      let above := dropNameless (p :: ps).dropLast
      some (String.ofList (head ++ ['/'].intercalate above))

/-- The components of a path that name something. -/
def components (path : String) : List String :=
  ((pieces path.toList).filter names).map String.ofList

/-- A path from the root: components are joined below the working directory, and empty ones and `.`
vanish.  Two slashes in front and one behind stay. -/
def absolute (workingDirectory path : String) : String :=
  let root : String := match path.toList with
    | '/' :: '/' :: '/' :: _ => "/"
    | '/' :: '/' :: _ => "//"
    | '/' :: _ => "/"
    | _ => workingDirectory
  let joined := (components path).foldl join root
  if path.toList.getLast? = some '/' then join joined "" else joined

/-! ## Laws -/

theorem pieces_ne_nil (cs : List Char) : pieces cs ≠ [] := by
  induction cs with
  | nil => simp [pieces]
  | cons c cs ih => by_cases h : c = '/' <;> simp [pieces, h, ih]

/-- Joining the pieces gives back the text. -/
theorem intercalate_pieces (cs : List Char) : ['/'].intercalate (pieces cs) = cs := by
  induction cs with
  | nil => rfl
  | cons c cs ih =>
      have hne := pieces_ne_nil cs
      by_cases h : c = '/'
      · cases hp : pieces cs with
        | nil => exact absurd hp hne
        | cons p ps => simp_all [pieces, List.intercalate]
      · cases hp : pieces cs with
        | nil => exact absurd hp hne
        | cons p ps =>
            cases ps <;> simp_all [pieces, List.intercalate]

/-- An absolute path below another one is itself. -/
theorem join_of_isAbsolute {base path : String} (h : isAbsolute path = true) :
    join base path = path := by
  simp [join, h]

end Exposure.Path
