import Mathlib.Data.String.Basic
import Exposure.Text.Bytes

/-!
# The bytes of a text, character by character

The bytes of a text are the bytes of its characters in order.  A character of one byte is that byte,
and every byte of another character lies above those, so a byte below 128 is always a character of
its own and never part of another one.
-/

namespace Exposure.Text

open String (utf8EncodeChar)

variable {c a : Char} {cs ds : List Char}

/-- The loop that reads an array of bytes has the bytes before `i` in `r`, the last one first. -/
theorem toList_loop_eq (bs : ByteArray) (i : Nat) (r : List UInt8) :
    ByteArray.toList.loop bs i r = r.reverse ++ bs.data.toList.drop i := by
  fun_induction ByteArray.toList.loop bs i r with
  | case1 i r h ih =>
      have hi : i < bs.data.toList.length := by simpa using h
      rw [ih, List.drop_eq_getElem_cons hi]
      simp [ByteArray.get!, h]
  | case2 i r h =>
      have hi : bs.data.toList.length ≤ i := by simpa using Nat.le_of_not_lt h
      rw [List.drop_eq_nil_of_le hi, List.append_nil]

theorem bytes_ofList (cs : List Char) : bytes (String.ofList cs) = cs.flatMap utf8EncodeChar := by
  rw [bytes, String.toUTF8_eq_toByteArray, String.toByteArray_ofList, List.utf8Encode,
    ByteArray.toList, toList_loop_eq, List.toList_data_toByteArray]
  rfl

theorem bytes_eq (s : String) : bytes s = s.toList.flatMap utf8EncodeChar := by
  rw [← bytes_ofList, String.ofList_toList]

theorem byteLength_eq_utf8Len (cs : List Char) : byteLength cs = String.utf8Len cs := by
  induction cs with
  | nil => rfl
  | cons c cs ih => rw [byteLength_cons, String.utf8Len_cons, ih, Nat.add_comm]

/-! ## Characters of one byte -/

/-- A character of one byte is that byte. -/
theorem utf8EncodeChar_of_size_eq_one (h : c.utf8Size = 1) : utf8EncodeChar c = [c.toUInt8] :=
  String.utf8EncodeChar_eq_singleton h

/-- Characters of one byte are told apart by it. -/
theorem toUInt8_eq_iff (hc : c.utf8Size = 1) (ha : a.utf8Size = 1) :
    c.toUInt8 = a.toUInt8 ↔ c = a := by
  constructor
  · intro h
    have hc : c.val.toNat ≤ 127 := UInt32.le_iff_toNat_le.mp (Char.utf8Size_eq_one_iff.mp hc)
    have ha : a.val.toNat ≤ 127 := UInt32.le_iff_toNat_le.mp (Char.utf8Size_eq_one_iff.mp ha)
    have hmod : c.val.toNat % 2 ^ 8 = a.val.toNat % 2 ^ 8 := congrArg UInt8.toNat h
    apply Char.ext
    apply UInt32.toNat_inj.mp
    omega
  · rintro rfl
    rfl

/-- The bytes of a character of several bytes are not characters of their own. -/
theorem le_of_mem_utf8EncodeChar (h : c.utf8Size ≠ 1) :
    ∀ b ∈ utf8EncodeChar c, 128 ≤ b.toNat := by
  have hlarge : ¬ c.val.toNat ≤ 127 := fun hle =>
    h (Char.utf8Size_eq_one_iff.mpr (UInt32.le_iff_toNat_le.mpr hle))
  rw [utf8EncodeChar, if_neg hlarge]
  -- a first byte lies above 192, 224 or 240, and a later one above 128
  split_ifs
  all_goals
    simp only [List.forall_mem_cons, UInt8.toNat_ofNat', List.not_mem_nil, false_imp_iff,
      implies_true, and_true]
    omega

end Exposure.Text
