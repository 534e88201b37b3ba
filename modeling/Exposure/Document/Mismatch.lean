import Exposure.Text.Quoted

/-!
# Values that do not have the expected form

A document holds values, and a reader expects a form of each.  This file words what was found and
what was expected, for every document format.
-/

namespace Exposure.Document

/-- What was found where something else was expected; a decimal number is given by its text. -/
inductive Found where
  | nothing
  | boolean (b : Bool)
  | integer (n : Int)
  /-- An integer that does not fit into 64 bits. -/
  | wideInteger (n : Int)
  | decimal (text : String)
  | string (s : String)
  | sequence
  | mapping
  | tagged
deriving DecidableEq, Repr

/-- The text of what was found; each format has its own word for nothing. -/
def Found.display (nothingWord : String) : Found → String
  | nothing => nothingWord
  | boolean b => s!"boolean `{b}`"
  | integer n => s!"integer `{n}`"
  | wideInteger n => s!"integer `{n}` as " ++ (if n < 0 then "i128" else "u128")
  | decimal text => s!"floating point `{text}`"
  | string s => "string " ++ Text.quoted s
  | sequence => "sequence"
  | mapping => "map"
  | tagged => "enum"

/-- Why a value does not have the expected form. -/
inductive Mismatch where
  | invalidType (found : Found) (expected : String)
  | invalidValue (found : Found) (expected : String)
  | invalidLength (length : Nat) (expected : String)
  | unknownVariant (variant : String) (expected : List String)
  | unknownField (field : String) (expected : List String)
  | missingField (field : String)
  | duplicateField (field : String)
deriving DecidableEq, Repr

/-- A text between backquotes. -/
def backquoted (s : String) : String := s!"`{s}`"

/-- The names that were expected. -/
def oneOf : List String → String
  | [] => "there are no names"
  | [a] => s!"expected {backquoted a}"
  | [a, b] => s!"expected {backquoted a} or {backquoted b}"
  | as =>
      let list := ", ".intercalate (as.map backquoted)
      s!"expected one of {list}"

/-- The text of a mismatch; each format has its own word for nothing. -/
def Mismatch.message (nothingWord : String) : Mismatch → String
  | invalidType found expected =>
      s!"invalid type: {found.display nothingWord}, expected {expected}"
  | invalidValue found expected =>
      s!"invalid value: {found.display nothingWord}, expected {expected}"
  | invalidLength length expected => s!"invalid length {length}, expected {expected}"
  | unknownVariant variant expected => s!"unknown variant {backquoted variant}, {oneOf expected}"
  | unknownField field expected => s!"unknown field {backquoted field}, {oneOf expected}"
  | missingField field => s!"missing field {backquoted field}"
  | duplicateField field => s!"duplicate field {backquoted field}"

end Exposure.Document
