import Exposure.Decimal.Shortest
import Exposure.Document.Mismatch
import Exposure.Text.Digit
import Exposure.Yaml.Node

/-!
# Scalars of no expected type

A plain scalar is nothing, a boolean, an integer, a decimal number or else a text, in this order.
This matters where a message says what was found.  Integers may be written to base sixteen, eight or
two; digits behind a leading zero make a text.
-/

namespace Exposure.Yaml

open Document (Found Mismatch)

/-- Whether a text is a word for nothing. -/
def isNullWord (s : String) : Bool := s = "~" || s = "null" || s = "Null" || s = "NULL"

/-- The boolean that a text is. -/
def boolean? (s : String) : Option Bool :=
  if s = "true" || s = "True" || s = "TRUE" then some true
  else if s = "false" || s = "False" || s = "FALSE" then some false
  else none

/-! ## Integers -/

/-- Whether digits stand behind a leading zero. -/
def hasLeadingZero : List Char → Bool
  | '0' :: c :: cs => (c :: cs).all Char.isDigit
  | _ => false

/-- The number of a text without a sign. -/
def magnitude? : List Char → Option Nat
  | '0' :: 'x' :: cs => Text.number? 16 cs
  | '0' :: 'o' :: cs => Text.number? 8 cs
  | '0' :: 'b' :: cs => Text.number? 2 cs
  | cs => if hasLeadingZero cs then none else Text.number? 10 cs

/-- The integer that a text is, as far as there is a type for it. -/
def integer? (cs : List Char) : Option Found :=
  match cs with
  | '-' :: ds =>
      match magnitude? ds with
      | some n =>
          if n ≤ 1 <<< 63 then some (.integer (-n))
          else if n ≤ 1 <<< 127 then some (.wideInteger (-n))
          else none
      | none => none
  | cs =>
      match magnitude? (if startsWith '+' cs then cs.drop 1 else cs) with
      | some n =>
          if n < 1 <<< 64 then some (.integer n)
          else if n < 1 <<< 128 then some (.wideInteger n)
          else none
      | none => none

/-! ## Decimal numbers -/

/-- The exponent of a decimal, which may be missing. -/
def exponent? : List Char → Option Int
  | [] => some 0
  | c :: cs =>
      if c = 'e' || c = 'E' then
        match cs with
        | '-' :: ds => (Text.number? 10 ds).map fun n => -(n : Int)
        | '+' :: ds => (Text.number? 10 ds).map fun n => (n : Int)
        | ds => (Text.number? 10 ds).map fun n => (n : Int)
      else none

/-- The decimal without a sign that a text is: its digits and the power of ten at the last one. -/
def scientific? (cs : List Char) : Option (List Char × Int) :=
  let whole := cs.takeWhile Char.isDigit
  let rest := cs.dropWhile Char.isDigit
  let (part, rest) := match rest with
    | '.' :: ds => (ds.takeWhile Char.isDigit, ds.dropWhile Char.isDigit)
    | ds => ([], ds)
  if whole.isEmpty && part.isEmpty then none
  else (exponent? rest).map fun e => (whole ++ part, e - part.length)

/-- The binary number of a decimal, unless it is too large. -/
def binary? (digits : List Char) (e : Int) : Option Float :=
  let n := (Text.number? 10 digits).getD 0
  let point : Int := (Nat.toDigits 10 n).length + e
  if n = 0 || point < -400 then some 0
  else if 400 < point then none
  else
    let x := if 0 ≤ e then Float.ofScientific n false e.toNat
      else Float.ofScientific n true (-e).toNat
    if x.isInf then none else some x

/-- The finite number without a sign that a text is. -/
def finite? (cs : List Char) : Option Float := (scientific? cs).bind fun (ds, e) => binary? ds e

/-- The decimal number that a text is. -/
def decimal? (s : String) : Option Float :=
  if s = ".nan" || s = ".NaN" || s = ".NAN" then some (0 / 0)
  else if s = "-.inf" || s = "-.Inf" || s = "-.INF" then some (-1 / 0)
  else
    match s.toList with
    | '-' :: cs => (finite? cs).map fun x => -x
    | cs =>
        let ds := if startsWith '+' cs then cs.drop 1 else cs
        if [".inf", ".Inf", ".INF"].contains (String.ofList ds) then some (1 / 0) else finite? ds

/-! ## What was found -/

/-- What a plain scalar is. -/
def plainFound (s : String) : Found :=
  if s.isEmpty || isNullWord s then .nothing
  else
    match boolean? s, integer? s.toList with
    | some b, _ => .boolean b
    | none, some n => n
    | none, none =>
        let cs := s.toList
        let unsigned := if startsWith '+' cs || startsWith '-' cs then cs.drop 1 else cs
        if hasLeadingZero unsigned then .string s
        else
          match decimal? s with
          | some x => .decimal (Decimal.pointedText x)
          | none => .string s

/-- Say that a scalar is not of the expected type.  A scalar with the tag of a standard type that it
does not have is a malformed value of that type. -/
def refuseScalar (tag : Option Tag) (style : ScalarStyle) (s expected : String) : Mismatch :=
  let untyped : Found :=
    if style = .plain && tag.all Tag.isOwn then plainFound s else .string s
  let typed (found : Option Found) (kind : String) : Mismatch :=
    match found with
    | some f => .invalidType f expected
    | none => .invalidValue (.string s) kind
  if tag = some Tag.boolean then typed ((boolean? s).map .boolean) "a boolean"
  else if tag = some Tag.integer then typed (integer? s.toList) "an integer"
  else if tag = some Tag.decimal then
    typed ((decimal? s).map fun x => .decimal (Decimal.pointedText x)) "a float"
  else if tag = some Tag.nothing then typed (if isNullWord s then some .nothing else none) "null"
  else .invalidType untyped expected

end Exposure.Yaml
