/-!
# Digits

The numbers that digits stand for, to any base up to sixteen.
-/

namespace Exposure.Text

/-- The value of a digit or of a letter of either case; other characters have one out of reach. -/
def charValue (c : Char) : Nat :=
  if c.isDigit then c.toNat - '0'.toNat
  else if 'a' ≤ c ∧ c ≤ 'f' then c.toNat - 'a'.toNat + 10
  else if 'A' ≤ c ∧ c ≤ 'F' then c.toNat - 'A'.toNat + 10
  else 16

/-- The value of a digit to a base of at most sixteen. -/
def digitValue? (base : Nat) (c : Char) : Option Nat :=
  if charValue c < base then some (charValue c) else none

/-- The number that some digits stand for behind those of a number. -/
def extend? (base : Nat) (n : Nat) (cs : List Char) : Option Nat :=
  cs.foldlM (fun n c => (digitValue? base c).map (n * base + ·)) n

/-- The number that a text of digits stands for; there must be a digit. -/
def number? (base : Nat) (cs : List Char) : Option Nat :=
  if cs.isEmpty then none else extend? base 0 cs

/-- The value of a digit is less than the base. -/
theorem digitValue?_lt {base n : Nat} {c : Char} (h : digitValue? base c = some n) :
    n < base := by
  unfold digitValue? at h
  split at h
  · next hlt => exact Option.some.inj h ▸ hlt
  · cases h

/-- One more digit is a unit of the number before it times the base. -/
theorem extend?_concat (base n : Nat) (cs : List Char) (c : Char) :
    extend? base n (cs ++ [c]) =
      (extend? base n cs).bind fun m => (digitValue? base c).map (m * base + ·) := by
  simp only [extend?, List.foldlM_append, List.foldlM_cons, List.foldlM_nil]
  cases List.foldlM (fun n c => (digitValue? base c).map (n * base + ·)) n cs with
  | none => rfl
  | some m => cases digitValue? base c <;> rfl

end Exposure.Text
