import Exposure.Text.Quoted

/-!
# Written JSON

Texts are written between double quotes; only the quote, the backslash and the characters below the
space are escaped.  A document is written either on one line or with two blanks of indentation for
each level.
-/

namespace Exposure.Json

/-- The escape of a character below the space that has no letter. -/
def codeEscapeText (c : Char) : List Char :=
  let digits := Nat.toDigits 16 c.toNat
  '\\' :: 'u' :: (List.replicate (4 - digits.length) '0' ++ digits)

/-- A character as it stands in a written text. -/
def escapeChar (c : Char) : List Char :=
  if c = '"' then ['\\', '"']
  else if c = '\\' then ['\\', '\\']
  else if c = '\x08' then ['\\', 'b']
  else if c = '\t' then ['\\', 't']
  else if c = '\n' then ['\\', 'n']
  else if c = '\x0c' then ['\\', 'f']
  else if c = '\r' then ['\\', 'r']
  else if c.toNat < 0x20 then codeEscapeText c
  else [c]

/-- The characters of a written text. -/
def writtenChars (cs : List Char) : List Char := '"' :: (cs.flatMap escapeChar ++ ['"'])

/-- A written text. -/
def written (s : String) : String := String.ofList (writtenChars s.toList)

/-! ## Documents -/

/-- What documents consist of. -/
inductive Tree where
  | text (s : String)
  | number (n : Nat)
  | list (items : List Tree)
  | object (entries : List (String × Tree))
deriving Repr

/-- A line break with two blanks for each level. -/
def newline (level : Nat) : String := "\n" ++ String.ofList (List.replicate (2 * level) ' ')

/-- Items between brackets, each on a line of its own; without items the brackets stand together. -/
def onLines (level : Nat) (start stop : String) (items : List String) : String :=
  if items.isEmpty then start ++ stop
  else
    start ++ newline (level + 1) ++ ("," ++ newline (level + 1)).intercalate items ++
      newline level ++ stop

mutual

/-- A document on one line. -/
def Tree.compact : Tree → String
  | .text s => written s
  | .number n => toString n
  | .list items => "[" ++ ",".intercalate (compactList items) ++ "]"
  | .object entries => "\x7b" ++ ",".intercalate (compactEntries entries) ++ "\x7d"

/-- The items of a list on one line. -/
def compactList : List Tree → List String
  | [] => []
  | t :: ts => t.compact :: compactList ts

/-- The entries of an object on one line. -/
def compactEntries : List (String × Tree) → List String
  | [] => []
  | (k, t) :: es => (written k ++ ":" ++ t.compact) :: compactEntries es

end

mutual

/-- A document with indentation. -/
def Tree.pretty (level : Nat) : Tree → String
  | .text s => written s
  | .number n => toString n
  | .list items => onLines level "[" "]" (prettyList (level + 1) items)
  | .object entries => onLines level "\x7b" "\x7d" (prettyEntries (level + 1) entries)

/-- The items of a list with indentation. -/
def prettyList (level : Nat) : List Tree → List String
  | [] => []
  | t :: ts => t.pretty level :: prettyList level ts

/-- The entries of an object with indentation. -/
def prettyEntries (level : Nat) : List (String × Tree) → List String
  | [] => []
  | (k, t) :: es => (written k ++ ": " ++ t.pretty level) :: prettyEntries level es

end

end Exposure.Json
