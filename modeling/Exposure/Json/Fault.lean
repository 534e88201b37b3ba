import Exposure.Document.Mismatch
import Exposure.Text.Bytes

/-!
# Faults of JSON texts

A reader of JSON text works on the characters that are left.  A fault therefore gives its place as
the number of bytes that are left behind it; `Position.ofLeft` turns this into a line and a column.
A value of the wrong form has no place at first: the reader that asked for the value gives it one
after it has tried to close what it had opened.
-/

namespace Exposure.Json

open Document (Mismatch)
open Text (byteLength)

/-- What is wrong with a JSON text. -/
inductive Problem where
  | endInValue
  | endInList
  | endInObject
  | endInString
  | expectedColon
  | expectedListEnd
  | expectedObjectEnd
  | expectedWord
  | expectedValue
  | invalidEscape
  | invalidNumber
  | numberOutOfRange
  | loneSurrogate
  | endInSurrogates
  | controlCharacter
  | keyNotString
  | trailingComma
  | trailingCharacters
  | tooDeep
  | mismatch (m : Mismatch)
deriving DecidableEq, Repr

/-- The text of a problem, without its place. -/
def Problem.message : Problem → String
  | endInValue => "EOF while parsing a value"
  | endInList => "EOF while parsing a list"
  | endInObject => "EOF while parsing an object"
  | endInString => "EOF while parsing a string"
  | expectedColon => "expected `:`"
  | expectedListEnd => "expected `,` or `]`"
  | expectedObjectEnd => "expected `,` or `\x7d`"
  | expectedWord => "expected ident"
  | expectedValue => "expected value"
  | invalidEscape => "invalid escape"
  | invalidNumber => "invalid number"
  | numberOutOfRange => "number out of range"
  | loneSurrogate => "lone leading surrogate in hex escape"
  | endInSurrogates => "unexpected end of hex escape"
  | controlCharacter => "control character (\\u0000-\\u001F) found while parsing a string"
  | keyNotString => "key must be a string"
  | trailingComma => "trailing comma"
  | trailingCharacters => "trailing characters"
  | tooDeep => "recursion limit exceeded"
  | mismatch m => m.message "null"

/-- A problem with its place, or with what is left while its place is not yet known. -/
inductive Fault where
  | placed (problem : Problem) (left : Nat)
  | pending (problem : Problem) (rest : List Char)
deriving DecidableEq, Repr

/-- A problem in front of what is left. -/
def Fault.before (p : Problem) (rest : List Char) : Fault := .placed p (byteLength rest)

/-- A problem with the next byte of what is left: its place is behind that byte. -/
def Fault.atNext (p : Problem) (rest : List Char) : Fault := .placed p (byteLength rest - 1)

/-- The result of reading: a value and what is left. -/
abbrev Step (α : Type) := Except Fault (α × List Char)

/-- A line and a column: lines count from one, a column is the number of bytes before the place. -/
structure Position where
  line : Nat
  column : Nat
deriving DecidableEq, Repr

/-- The place behind some bytes. -/
def Position.ofBytes (bytes : List UInt8) : Position :=
  ⟨bytes.count 10 + 1, (bytes.reverse.takeWhile (· ≠ 10)).length⟩

/-- The place in a text that has so many bytes behind it. -/
def Position.ofLeft (text : String) (left : Nat) : Position :=
  let bytes := Text.bytes text
  .ofBytes (bytes.take (bytes.length - left))

/-- The text of a place behind a message. -/
def Position.suffix (p : Position) : String := s!" at line {p.line} column {p.column}"

end Exposure.Json
