import Mathlib.Data.List.Basic
import Exposure.Json.Lexeme
import Exposure.Json.Written

/-!
# Written texts read back

A text is written with an escape for every character that may not stand in it.  Reading takes each
escape for the character that it was written for, so a text always comes back as it was.
-/

namespace Exposure.Json

variable {c d : Char} {cs rest : List Char}

/-! ## Escapes -/

/-- The code of a character below the space is padded to four digits. -/
theorem padded_toDigits : ∀ n < 0x20,
    List.replicate (4 - (Nat.toDigits 16 n).length) '0' ++ Nat.toDigits 16 n =
      ['0', '0', Nat.digitChar (n / 16), Nat.digitChar (n % 16)] := by
  decide

theorem number?_padded : ∀ n < 0x20,
    Text.number? 16 ['0', '0', Nat.digitChar (n / 16), Nat.digitChar (n % 16)] = some n := by
  decide

/-- An escape and the characters behind it. -/
theorem stringChars_escape (hlt : rest.length < cs.length)
    (h : escape cs = .ok (d, ⟨rest, hlt⟩)) :
    stringChars ('\\' :: cs) = (stringChars rest).map fun r => (d :: r.1, r.2) := by
  rw [stringChars, if_neg (by decide), if_pos rfl, h]
  dsimp only
  cases stringChars rest <;> rfl

/-- A letter behind a backslash and the characters behind it. -/
theorem stringChars_shortEscape (h : shortEscape? d = some c) (rest : List Char) :
    stringChars ('\\' :: d :: rest) = (stringChars rest).map fun r => (c :: r.1, r.2) := by
  refine stringChars_escape (by simp) ?_
  simp only [escape, h]

/-- A character that stands for itself and the characters behind it. -/
theorem stringChars_plain (hquote : c ≠ '"') (hslash : c ≠ '\\') (hlow : ¬ c.toNat < 0x20) :
    stringChars (c :: rest) = (stringChars rest).map fun r => (c :: r.1, r.2) := by
  rw [stringChars, if_neg hquote, if_neg hslash, if_neg hlow]
  cases stringChars rest <;> rfl

theorem escape_code (hlow : c.toNat < 0x20) (rest : List Char) :
    ∃ hlt, escape ('u' :: '0' :: '0' :: Nat.digitChar (c.toNat / 16) ::
      Nat.digitChar (c.toNat % 16) :: rest) = .ok (c, ⟨rest, hlt⟩) := by
  refine ⟨by simp; omega, ?_⟩
  have hnumber := number?_padded c.toNat hlow
  have hchar : Char.ofNat c.toNat = c := Char.ofNat_toNat c
  have htrailing : isTrailing c.toNat = false := by simp [isTrailing]; omega
  have hleading : isLeading c.toNat = false := by simp [isLeading]; omega
  simp [escape, shortEscape?, codeEscape, hexNumber, hnumber, htrailing, hleading, hchar]

/-- Whatever a character is written as, it is read back. -/
theorem stringChars_escapeChar (c : Char) (rest : List Char) :
    stringChars (escapeChar c ++ rest) = (stringChars rest).map fun r => (c :: r.1, r.2) := by
  unfold escapeChar
  split_ifs with hquote hslash hb ht hn hf hr hlow
  · exact stringChars_shortEscape (by rw [hquote]; rfl) rest
  · exact stringChars_shortEscape (by rw [hslash]; rfl) rest
  · exact stringChars_shortEscape (by rw [hb]; rfl) rest
  · exact stringChars_shortEscape (by rw [ht]; rfl) rest
  · exact stringChars_shortEscape (by rw [hn]; rfl) rest
  · exact stringChars_shortEscape (by rw [hf]; rfl) rest
  · exact stringChars_shortEscape (by rw [hr]; rfl) rest
  · obtain ⟨hlt, h⟩ := escape_code hlow rest
    have hcode : codeEscapeText c = ['\\', 'u', '0', '0', Nat.digitChar (c.toNat / 16),
        Nat.digitChar (c.toNat % 16)] := by
      rw [codeEscapeText, padded_toDigits c.toNat hlow]
    rw [hcode]
    exact stringChars_escape hlt h
  · exact stringChars_plain hquote hslash hlow

/-! ## Texts -/

/-- The characters of a written text come back, up to the quote behind them. -/
theorem stringChars_flatMap_escapeChar (cs rest : List Char) :
    stringChars (cs.flatMap escapeChar ++ '"' :: rest) = .ok (cs, rest) := by
  induction cs with
  | nil => rw [List.flatMap_nil, List.nil_append, stringChars, if_pos rfl]
  | cons c cs ih =>
      rw [List.flatMap_cons, List.append_assoc, stringChars_escapeChar, ih]
      rfl

@[simp] theorem stringText_flatMap_escapeChar (s : String) (rest : List Char) :
    stringText (s.toList.flatMap escapeChar ++ '"' :: rest) = .ok (s, rest) := by
  rw [stringText, stringChars_flatMap_escapeChar]
  simp [Except.map]

end Exposure.Json
