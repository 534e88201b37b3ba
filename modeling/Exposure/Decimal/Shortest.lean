/-!
# Shortest decimals

A binary floating-point number stands for an interval of reals, those that round to it.  Its
shortest decimal is a multiple of the greatest power of ten that has a multiple in this interval,
and of two such multiples the nearer one.  Where both are equally near, either the even or the upper
one is taken.  Everything is computed with natural numbers.  Two layouts of the digits follow: one
that turns to powers of ten for very large and very small numbers, and one that never does.
-/

namespace Exposure.Decimal

/-- The number `digits * 10 ^ exponent`. -/
structure Scientific where
  digits : Nat
  exponent : Int
deriving DecidableEq, Repr

/-- The magnitude `mantissa * 2 ^ exponent` of a finite number; `even` is set when the ends of its
interval belong to it, `narrow` when the next smaller number is only half as far away as the next
larger one. -/
structure Magnitude where
  mantissa : Nat
  exponent : Int
  even : Bool
  narrow : Bool
deriving DecidableEq, Repr

/-- Which of two equally near multiples is taken. -/
inductive Tie where
  | toEven
  | up
deriving DecidableEq, Repr

/-- Whether the lower one of two equally near multiples is taken. -/
def Tie.takesLower (tie : Tie) (lower : Nat) : Bool := tie = .toEven && lower % 2 = 0

/-- The magnitude of a finite number that is given by its bits. -/
def Magnitude.ofBits (bits : Nat) : Magnitude :=
  let biased : Nat := bits >>> 52 % 1 <<< 11
  let fraction : Nat := bits % 1 <<< 52
  if biased = 0 then ⟨fraction, -1074, fraction % 2 = 0, false⟩
  else ⟨1 <<< 52 + fraction, (biased : Int) - 1075, fraction % 2 = 0, fraction = 0 && 1 < biased⟩

/-- Both sides of the comparison of `x * 2 ^ p` with `d * 10 ^ e`, brought to natural numbers. -/
def scaled (x : Nat) (p : Int) (d : Nat) (e : Int) : Nat × Nat :=
  (x <<< p.toNat * Nat.pow 10 (-e).toNat, d <<< (-p).toNat * Nat.pow 10 e.toNat)

/-- Whether `d * 10 ^ e` rounds to the magnitude.  The ends of the interval are four times the
mantissa, less one or two and plus two, in quarters of the last place. -/
def Magnitude.holds (m : Magnitude) (d : Nat) (e : Int) : Bool :=
  let p := m.exponent - 2
  let low := scaled (4 * m.mantissa - (if m.narrow then 1 else 2)) p d e
  let high := scaled (4 * m.mantissa + 2) p d e
  if m.even then low.1 ≤ low.2 && high.2 ≤ high.1 else low.1 < low.2 && high.2 < high.1

/-- The multiple of `10 ^ e` that rounds to the magnitude and is nearest to it, if there is one. -/
def Magnitude.onGrid? (tie : Tie) (m : Magnitude) (e : Int) : Option Nat :=
  let whole := scaled m.mantissa m.exponent 1 e
  let below := whole.1 / whole.2
  let rest := whole.1 % whole.2
  match m.holds below e && 0 < below, m.holds (below + 1) e with
  | true, true =>
      if 2 * rest < whole.2 || (2 * rest = whole.2 && tie.takesLower below) then some below
      else some (below + 1)
  | true, false => some below
  | false, true => some (below + 1)
  | false, false => none

/-- Try the powers of ten downwards from `10 ^ e`. -/
def Magnitude.shortestFrom (tie : Tie) (m : Magnitude) : Nat → Int → Scientific
  | 0, e => ⟨m.mantissa, e⟩
  | k + 1, e =>
      match m.onGrid? tie e with
      | some d => ⟨d, e⟩
      | none => m.shortestFrom tie k (e - 1)

/-- The shortest decimal of a magnitude. -/
def Magnitude.shortest (tie : Tie) (m : Magnitude) : Scientific :=
  if m.mantissa = 0 then ⟨0, 0⟩ else m.shortestFrom tie 660 309

/-- The digits of a number to base ten. -/
def digitText (n : Nat) : String := String.ofList (Nat.toDigits 10 n)

/-- So many zeros. -/
def zeros (n : Nat) : String := String.ofList (List.replicate n '0')

/-- A decimal that is written with a point and at least one digit on both sides of it. -/
def Scientific.pointed (s : Scientific) : String :=
  let text := digitText s.digits
  let point : Int := (text.length : Int) + s.exponent
  if 0 ≤ s.exponent then text ++ zeros s.exponent.toNat ++ ".0"
  else if 0 < point then
    String.ofList (text.toList.take point.toNat) ++ "." ++
      String.ofList (text.toList.drop point.toNat)
  else "0." ++ zeros (-point).toNat ++ text

/-- A decimal with one digit before the point and a power of ten, which always has a sign. -/
def Scientific.powered (s : Scientific) : String :=
  let text := digitText s.digits
  let power : Int := (text.length : Int) + s.exponent - 1
  let mantissa :=
    match text.toList with
    | c :: d :: ds => String.ofList (c :: '.' :: d :: ds)
    | _ => text
  mantissa ++ (if power < 0 then "e-" else "e+") ++ digitText power.natAbs

/-- A decimal that is written with a power of ten when its point would stand more than sixteen
digits to the right, or more than five digits to the left, of its first digit. -/
def Scientific.balanced (s : Scientific) : String :=
  let point : Int := ((digitText s.digits).length : Int) + s.exponent
  if s.digits = 0 || (-5 < point && point ≤ 16) then s.pointed else s.powered

/-- Whether the number is finite. -/
def isFinite (x : Float) : Bool := x.toBits.toNat >>> 52 % 1 <<< 11 ≠ 1 <<< 11 - 1

/-- Whether the sign bit of the number is set. -/
def isNegative (x : Float) : Bool := 1 <<< 63 ≤ x.toBits.toNat

/-- A layout of a decimal, with the sign in front of it. -/
def signed (tie : Tie) (layout : Scientific → String) (x : Float) : String :=
  (if isNegative x then "-" else "") ++ layout ((Magnitude.ofBits x.toBits.toNat).shortest tie)

/-- The text of a finite number, with a power of ten where that is shorter to read. -/
def balancedText (x : Float) : String := signed .toEven Scientific.balanced x

/-- The text of a number, always with a point. -/
def pointedText (x : Float) : String :=
  if isFinite x then signed .up Scientific.pointed x
  else if x.toBits.toNat % 1 <<< 52 ≠ 0 then "NaN"
  else if isNegative x then "-inf"
  else "inf"

end Exposure.Decimal
