import Exposure.Text.Bytes

/-!
# Segments by their places

The scan for separators need not look at characters.  It walks over the bytes of a text, keeps the
bracket depth, the place where the current piece began and the place it has come to, and notes a
piece by its two ends.  A piece is then what stands between two places of the text.
-/

namespace Exposure.Name

/-- A part of a text, given by the places of its first byte and of the byte behind it. -/
structure Span where
  start : Nat
  stop : Nat
deriving DecidableEq, Repr

/-- The part of the text. -/
def Span.text (s : String) (span : Span) : String :=
  String.Pos.Raw.extract s ⟨span.start⟩ ⟨span.stop⟩

/-- Both ends lie between characters of the text. -/
structure Span.Cuts (s : String) (span : Span) : Prop where
  start : String.Pos.Raw.IsValid s ⟨span.start⟩
  stop : String.Pos.Raw.IsValid s ⟨span.stop⟩

/-- The bracket depth after one more byte. -/
def nextByteDepth (d : Nat) (b : UInt8) : Nat :=
  if b = '<'.toUInt8 then d + 1 else if b = '>'.toUInt8 then d - 1 else d

/-- The parts between the separators at depth zero: the current one began at `start`, and the next
byte is at `i`. -/
def spansFrom (start : Nat) : Nat → Nat → List UInt8 → List Span
  | _, i, [] => [⟨start, i⟩]
  | _, i, [_] => [⟨start, i + 1⟩]
  | d, i, b :: b' :: bs =>
      if d = 0 ∧ b = ':'.toUInt8 ∧ b' = ':'.toUInt8 then
        ⟨start, i⟩ :: spansFrom (i + 2) 0 (i + 2) bs
      else
        spansFrom start (nextByteDepth d b) (i + 1) (b' :: bs)

/-- The parts between the separators of a text. -/
def spans (s : String) : List Span := spansFrom 0 0 0 (Text.bytes s)

@[simp] theorem spansFrom_separator (start i : Nat) (bs : List UInt8) :
    spansFrom start 0 i (':'.toUInt8 :: ':'.toUInt8 :: bs) =
      ⟨start, i⟩ :: spansFrom (i + 2) 0 (i + 2) bs := by
  simp [spansFrom]

/-- A byte that does not start a separator is stepped over. -/
theorem spansFrom_cons_of_not {start d i : Nat} {b : UInt8} {bs : List UInt8}
    (h : ¬ (d = 0 ∧ b = ':'.toUInt8 ∧ bs.head? = some ':'.toUInt8)) :
    spansFrom start d i (b :: bs) = spansFrom start (nextByteDepth d b) (i + 1) bs := by
  cases bs with
  | nil => rfl
  | cons b' bs =>
      rw [spansFrom, if_neg]
      simpa using h

/-- Bytes above all the marks are stepped over, and the depth stays. -/
theorem spansFrom_append_of_le {start d i : Nat} {large bs : List UInt8}
    (h : ∀ b ∈ large, 128 ≤ b.toNat) :
    spansFrom start d i (large ++ bs) = spansFrom start d (i + large.length) bs := by
  induction large generalizing i with
  | nil => rfl
  | cons b large ih =>
      obtain ⟨hb, hlarge⟩ := List.forall_mem_cons.mp h
      have hne (a : Char) (ha : a.toUInt8.toNat < 128) : b ≠ a.toUInt8 := by
        rintro rfl
        omega
      have hdepth : nextByteDepth d b = d := by
        rw [nextByteDepth, if_neg (hne '<' (by decide)), if_neg (hne '>' (by decide))]
      rw [List.cons_append, spansFrom_cons_of_not fun hd => hne ':' (by decide) hd.2.1, hdepth,
        ih hlarge, List.length_cons, Nat.add_assoc, Nat.add_comm 1]

end Exposure.Name
