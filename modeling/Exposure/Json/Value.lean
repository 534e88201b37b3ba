import Exposure.Document.Mismatch

/-!
# JSON values

A value that has already been read has no places any more, so a mismatch is all that can be wrong
with its form.  The entries of an object are ordered by their keys.
-/

namespace Exposure.Json

open Document (Found Mismatch)

/-- A JSON value; a decimal number is given by its text. -/
inductive Value where
  | null
  | boolean (b : Bool)
  | integer (n : Int)
  | decimal (text : String)
  | string (s : String)
  | array (items : List Value)
  | object (entries : List (String × Value))
deriving Repr, Inhabited

namespace Value

/-- What a value is, as messages say it. -/
def found : Value → Found
  | null => .nothing
  | boolean b => .boolean b
  | integer n => .integer n
  | decimal text => .decimal text
  | string s => .string s
  | array _ => .sequence
  | object _ => .mapping

/-- Say that a value is not of the expected form. -/
def refuse (v : Value) (expected : String) : Mismatch := .invalidType v.found expected

/-- The text that a value is. -/
def asText : Value → Except Mismatch String
  | string s => .ok s
  | v => .error (v.refuse "a string")

/-- The list that a value is. -/
def asList (read : Value → Except Mismatch α) : Value → Except Mismatch (List α)
  | array items => items.mapM read
  | v => .error (v.refuse "a sequence")

/-- The optional value that a value is. -/
def asOptional (read : Value → Except Mismatch α) : Value → Except Mismatch (Option α)
  | null => .ok none
  | v => (read v).map some

/-- The value of a keyword. -/
def keyword (ofKeyword? : String → Option α) (all : List String) (s : String) :
    Except Mismatch α :=
  match ofKeyword? s with
  | some a => .ok a
  | none => .error (.unknownVariant s all)

/-- One of several keywords, which is either a text or the only key of an object with nothing under
it. -/
def asChoice (ofKeyword? : String → Option α) (all : List String) : Value → Except Mismatch α
  | string s => keyword ofKeyword? all s
  | object [(s, inner)] => do
      let a ← keyword ofKeyword? all s
      match inner with
      | null => .ok a
      | inner => .error (inner.refuse "unit")
  | object _ => .error (.invalidValue .mapping "map with a single key")
  | v => .error (v.refuse "string or map")

/-- A list may have no items behind the last field of a structure. -/
def noneLeft (size count : Nat) : Except Mismatch Unit :=
  if size ≤ count then .ok () else .error (.invalidLength size "fewer elements in array")

/-- A field that must be given. -/
def required (field : String) : Option α → Except Mismatch α
  | some a => .ok a
  | none => .error (.missingField field)

/-- A field that must be given in the list of the fields. -/
def requiredAt (index : Nat) (expected : String) : Option α → Except Mismatch α
  | some a => .ok a
  | none => .error (.invalidLength index expected)

end Value

end Exposure.Json
