import Exposure.Decimal.Shortest
import Exposure.Json.Fault
import Exposure.Text.Digit

/-!
# Lexemes of JSON

Blanks, words, strings and numbers at the front of a text.  Each reader gives what it read and what
is left, which is shorter.
-/

namespace Exposure.Json

open Document (Found)
open Text (byteLength)

/-- The blanks of JSON. -/
def isBlank (c : Char) : Bool := c = ' ' || c = '\n' || c = '\t' || c = '\r'

/-- Drop the blanks at the front. -/
def skipBlanks (cs : List Char) : List Char := cs.dropWhile isBlank

/-- Read the rest of a word whose first letter has been read. -/
def word : List Char → List Char → Except Fault (List Char)
  | [], cs => .ok cs
  | _ :: _, [] => .error (.before .endInValue [])
  | w :: ws, c :: cs => if c = w then word ws cs else .error (.atNext .expectedWord (c :: cs))

/-! ## Strings -/

/-- Text that is left and shorter than the text before it. -/
abbrev Shorter (cs : List Char) := { rest : List Char // rest.length < cs.length }

/-- Read four digits to base sixteen; four bytes are read whatever they are. -/
def hexNumber (cs : List Char) : Except Fault (Nat × Shorter cs) :=
  match cs with
  | a :: b :: c :: d :: rest =>
      match Text.number? 16 [a, b, c, d] with
      | some n => .ok (n, ⟨rest, by simp; omega⟩)
      | none => .error (.placed .invalidEscape (byteLength (a :: b :: c :: d :: rest) - 4))
  | cs =>
      if 4 ≤ byteLength cs then .error (.placed .invalidEscape (byteLength cs - 4))
      else .error (.before .endInString [])

/-- Whether a number is the first of a pair of surrogates. -/
def isLeading (n : Nat) : Bool := 0xd800 ≤ n && n ≤ 0xdbff

/-- Whether a number is the second of a pair of surrogates. -/
def isTrailing (n : Nat) : Bool := 0xdc00 ≤ n && n ≤ 0xdfff

/-- The character of a pair of surrogates. -/
def pairChar (n m : Nat) : Char := Char.ofNat ((n - 0xd800) * 1024 + (m - 0xdc00) + 0x10000)

/-- Read the second of a pair of surrogates. -/
def trailingEscape (n : Nat) (cs : List Char) : Except Fault (Char × Shorter cs) :=
  match cs with
  | [] => .error (.before .endInString [])
  | '\\' :: [] => .error (.before .endInString [])
  | '\\' :: 'u' :: rest =>
      match hexNumber rest with
      | .error e => .error e
      | .ok (m, ⟨left, h⟩) =>
          if isTrailing m then .ok (pairChar n m, ⟨left, by simp; omega⟩)
          else .error (.before .loneSurrogate left)
  | '\\' :: c :: rest => .error (.atNext .endInSurrogates (c :: rest))
  | c :: rest => .error (.atNext .endInSurrogates (c :: rest))

/-- Read the character of a code of four digits, or of two such codes. -/
def codeEscape (cs : List Char) : Except Fault (Char × Shorter cs) :=
  match hexNumber cs with
  | .error e => .error e
  | .ok (n, ⟨rest, h⟩) =>
      if isTrailing n then .error (.before .loneSurrogate rest)
      else if isLeading n then
        match trailingEscape n rest with
        | .error e => .error e
        | .ok (c, ⟨left, h'⟩) => .ok (c, ⟨left, by omega⟩)
      else .ok (Char.ofNat n, ⟨rest, h⟩)

/-- The characters that stand behind a backslash for themselves or for a control character. -/
def shortEscape? (c : Char) : Option Char :=
  if c = '"' || c = '\\' || c = '/' then some c
  else if c = 'b' then some '\x08'
  else if c = 'f' then some '\x0c'
  else if c = 'n' then some '\n'
  else if c = 'r' then some '\r'
  else if c = 't' then some '\t'
  else none

/-- Read what stands behind a backslash. -/
def escape (cs : List Char) : Except Fault (Char × Shorter cs) :=
  match cs with
  | [] => .error (.before .endInString [])
  | c :: rest =>
      match shortEscape? c with
      | some d => .ok (d, ⟨rest, by simp⟩)
      | none =>
          if c = 'u' then
            match codeEscape rest with
            | .error e => .error e
            | .ok (d, ⟨left, h⟩) => .ok (d, ⟨left, by simp; omega⟩)
          else .error (.atNext .invalidEscape (c :: rest))

/-- Read a string whose opening quote has been read. -/
def stringChars (cs : List Char) : Step (List Char) :=
  match cs with
  | [] => .error (.before .endInString [])
  | c :: rest =>
      if c = '"' then .ok ([], rest)
      else if c = '\\' then
        match escape rest with
        | .error e => .error e
        | .ok (d, ⟨left, _⟩) =>
            match stringChars left with
            | .error e => .error e
            | .ok (ds, left) => .ok (d :: ds, left)
      else if c.toNat < 0x20 then .error (.before .controlCharacter rest)
      else
        match stringChars rest with
        | .error e => .error e
        | .ok (ds, left) => .ok (c :: ds, left)
termination_by cs.length
decreasing_by all_goals simp_all; try omega

/-- Read a string whose opening quote has been read, as text. -/
def stringText (cs : List Char) : Step String :=
  (stringChars cs).map fun r => (String.ofList r.1, r.2)

/-! ## Numbers -/

/-- The value of a decimal digit. -/
def digit (c : Char) : Nat := c.toNat - '0'.toNat

/-- Whether a text starts with a decimal digit. -/
def startsWithDigit : List Char → Bool
  | c :: _ => c.isDigit
  | [] => false

/-- Drop the digits at the front. -/
def skipDigits (cs : List Char) : List Char := cs.dropWhile Char.isDigit

/-- Read digits behind a number for as long as the number does not pass a bound. -/
def digitsBelow (bound : Nat) (n : Nat) : List Char → Nat × List Char
  | [] => (n, [])
  | c :: cs =>
      if c.isDigit && n * 10 + digit c ≤ bound then digitsBelow bound (n * 10 + digit c) cs
      else (n, c :: cs)

/-- The greatest significand. -/
def maxSignificand : Nat := 1 <<< 64 - 1

/-- The greatest exponent that is written out. -/
def maxExponent : Nat := 1 <<< 31 - 1

/-- A power of ten as a binary number. -/
def powerOfTen (n : Nat) : Float := Float.ofScientific 1 false n

/-- The binary number `x * 10 ^ e`, scaled by at most 308 places at a time. -/
def scale (x : Float) (e : Int) : Option Float :=
  if 0 ≤ e then
    if e ≤ 308 then
      let y := x * powerOfTen e.toNat
      if y.isInf then none else some y
    else if x == 0 then some x
    else none
  else if -308 ≤ e then some (x / powerOfTen (-e).toNat)
  else if x == 0 then some x
  else scale (x / powerOfTen 308) (e + 308)
termination_by e.natAbs
decreasing_by omega

/-- The decimal number of a sign, a significand and an exponent. -/
def decimal (positive : Bool) (n : Nat) (e : Int) (rest : List Char) : Step Found :=
  match scale n.toUInt64.toFloat e with
  | some x => .ok (.decimal (Decimal.balancedText (if positive then x else -x)), rest)
  | none => .error (.before .numberOutOfRange rest)

/-- Read an exponent whose letter has been read. -/
def exponentPart (positive : Bool) (n : Nat) (e : Int) (cs : List Char) : Step Found :=
  let (up, cs) : Bool × List Char :=
    match cs with
    | '+' :: rest => (true, rest)
    | '-' :: rest => (false, rest)
    | rest => (true, rest)
  match cs with
  | [] => .error (.before .endInValue [])
  | c :: rest =>
      if c.isDigit then
        match digitsBelow maxExponent (digit c) rest with
        | (k, d :: left) =>
            if d.isDigit then
              if n ≠ 0 && up then .error (.before .numberOutOfRange left)
              else
                .ok (.decimal (Decimal.balancedText (if positive then 0 else -0)), skipDigits left)
            else decimal positive n (if up then e + k else e - k) (d :: left)
        | (k, []) => decimal positive n (if up then e + k else e - k) []
      else .error (.atNext .invalidNumber (c :: rest))

/-- Read an exponent if one follows, and make the decimal number. -/
def exponentOrEnd (positive : Bool) (n : Nat) (e : Int) (cs : List Char) : Step Found :=
  match cs with
  | c :: rest =>
      if c = 'e' || c = 'E' then exponentPart positive n e rest
      else decimal positive n e (c :: rest)
  | [] => decimal positive n e []

/-- Read the digits behind a point that has been read. -/
def fractionPart (positive : Bool) (n : Nat) (e : Int) (cs : List Char) : Step Found :=
  let (m, rest) := digitsBelow maxSignificand n cs
  let count : Nat := cs.length - rest.length
  if startsWithDigit rest then exponentOrEnd positive m (e - count) (skipDigits rest)
  else if count = 0 then
    .error (.atNext (if rest.isEmpty then .endInValue else .invalidNumber) rest)
  else exponentOrEnd positive m (e - count) rest

/-- Read what follows a significand of which some digits were dropped. -/
def longNumber (positive : Bool) (n : Nat) (cs : List Char) : Step Found :=
  let rest := skipDigits cs
  let e : Int := (cs.length - rest.length : Nat)
  match rest with
  | '.' :: left => fractionPart positive n e left
  | rest => exponentOrEnd positive n e rest

/-- Read what follows a significand. -/
def numberEnd (positive : Bool) (n : Nat) (cs : List Char) : Step Found :=
  match cs with
  | '.' :: rest => fractionPart positive n 0 rest
  | 'e' :: rest => exponentPart positive n 0 rest
  | 'E' :: rest => exponentPart positive n 0 rest
  | rest =>
      if positive then .ok (.integer n, rest)
      else if 0 < n && n ≤ 1 <<< 63 then .ok (.integer (-n), rest)
      else .ok (.decimal (Decimal.balancedText (-n.toUInt64.toFloat)), rest)

/-- Read a number whose sign has been read. -/
def number (positive : Bool) (cs : List Char) : Step Found :=
  match cs with
  | [] => .error (.before .endInValue [])
  | c :: rest =>
      if c = '0' then
        if startsWithDigit rest then .error (.atNext .invalidNumber rest)
        else numberEnd positive 0 rest
      else if c.isDigit then
        let (n, left) := digitsBelow maxSignificand (digit c) rest
        if startsWithDigit left then longNumber positive n left else numberEnd positive n left
      else .error (.atNext .invalidNumber (c :: rest))

end Exposure.Json
