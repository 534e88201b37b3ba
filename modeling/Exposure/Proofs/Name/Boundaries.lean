import Mathlib.Data.List.Forall2
import Exposure.Name.Spans
import Exposure.Proofs.Name.Distribution
import Exposure.Proofs.Text.Encoding

/-!
# Where a name is cut

The scan over bytes cuts a text where the scan over characters does.  Only the three marks `<`, `>`
and `:` move it, each of them is one byte, and no such byte is part of a longer character; so the
two scans agree on the depth after each character, and a cut never falls inside one.  The places of
the pieces are then those of texts that stand one behind the other with a separator between.
-/

namespace Exposure.Name

open String (utf8EncodeChar)
open Text (byteLength)

variable {start d i : Nat} {c : Char} {cs p : List Char} {ps : List (List Char)} {bs : List UInt8}

/-! ## One character -/

theorem nextByteDepth_toUInt8 (hc : c.utf8Size = 1) :
    nextByteDepth d c.toUInt8 = nextDepth d c := by
  have hopen := Text.toUInt8_eq_iff (a := '<') hc rfl
  have hclose := Text.toUInt8_eq_iff (a := '>') hc rfl
  rw [nextByteDepth, nextDepth]
  simp only [hopen, hclose]

theorem nextDepth_of_size_ne_one (hc : c.utf8Size ≠ 1) : nextDepth d c = d := by
  rw [nextDepth, if_neg, if_neg]
  · rintro rfl
    exact hc rfl
  · rintro rfl
    exact hc rfl

/-- The scan over bytes steps over a whole character and has the depth behind it. -/
theorem spansFrom_utf8EncodeChar
    (h : ¬ (d = 0 ∧ c = ':' ∧ bs.head? = some ':'.toUInt8)) :
    spansFrom start d i (utf8EncodeChar c ++ bs) =
      spansFrom start (nextDepth d c) (i + c.utf8Size) bs := by
  by_cases hc : c.utf8Size = 1
  · have hbyte : ¬ (d = 0 ∧ c.toUInt8 = ':'.toUInt8 ∧ bs.head? = some ':'.toUInt8) := by
      rwa [Text.toUInt8_eq_iff hc rfl]
    rw [Text.utf8EncodeChar_of_size_eq_one hc, List.singleton_append,
      spansFrom_cons_of_not hbyte, nextByteDepth_toUInt8 hc, hc]
  · rw [spansFrom_append_of_le (Text.le_of_mem_utf8EncodeChar hc), String.length_utf8EncodeChar,
      nextDepth_of_size_ne_one hc]

/-- A colon comes next among the bytes exactly when it comes next in the text. -/
theorem head?_bytes_eq_colon_iff :
    (cs.flatMap utf8EncodeChar).head? = some ':'.toUInt8 ↔ cs.head? = some ':' := by
  cases cs with
  | nil => simp
  | cons c cs =>
      rw [List.flatMap_cons, List.head?_append_of_ne_nil _ String.utf8EncodeChar_ne_nil,
        List.head?_cons, Option.some_inj]
      by_cases hc : c.utf8Size = 1
      · rw [Text.utf8EncodeChar_of_size_eq_one hc, List.head?_cons, Option.some_inj,
          Text.toUInt8_eq_iff hc rfl]
      · refine iff_of_false (fun h => ?_) ?_
        · have hle := Text.le_of_mem_utf8EncodeChar hc _ (List.mem_of_head? h)
          exact absurd hle (by decide)
        · rintro rfl
          exact hc rfl

/-! ## A whole text -/

/-- The places of pieces that stand one behind the other, with a separator between two of them: the
first begins at `start`, and its characters are counted from `i` on. -/
def placed (start i : Nat) : List (List Char) → List Span
  | [] => []
  | p :: ps =>
      ⟨start, i + byteLength p⟩ :: placed (i + byteLength p + 2) (i + byteLength p + 2) ps

/-- A character of the first piece may be counted before the pieces are. -/
theorem placed_modifyHead_cons :
    placed start i (ps.modifyHead (c :: ·)) = placed start (i + c.utf8Size) ps := by
  cases ps with
  | nil => rfl
  | cons p ps => simp only [List.modifyHead_cons, placed, Text.byteLength_cons, Nat.add_assoc]

/-- The scan over the bytes of a text notes the places of its pieces. -/
theorem spansFrom_bytes :
    spansFrom start d i (cs.flatMap utf8EncodeChar) = placed start i (pieces d cs) := by
  fun_induction pieces d cs generalizing start i with
  | case1 d => rfl
  | case2 d c =>
      rw [List.flatMap_singleton, ← List.append_nil (utf8EncodeChar c),
        spansFrom_utf8EncodeChar (by simp)]
      rfl
  | case3 d c c' cs hd ih =>
      obtain ⟨rfl, rfl, rfl⟩ := hd
      have hcolon : utf8EncodeChar ':' = [':'.toUInt8] := Text.utf8EncodeChar_of_size_eq_one rfl
      rw [List.flatMap_cons, List.flatMap_cons, hcolon, List.singleton_append,
        List.singleton_append, spansFrom_separator, ih]
      rfl
  | case4 d c c' cs hd ih =>
      have hbytes : ¬ (d = 0 ∧ c = ':' ∧
          ((c' :: cs).flatMap utf8EncodeChar).head? = some ':'.toUInt8) := by
        rw [head?_bytes_eq_colon_iff]
        simpa using hd
      rw [List.flatMap_cons, spansFrom_utf8EncodeChar hbytes, ih, placed_modifyHead_cons]

/-! ## Cuts fall between characters -/

/-- The place behind the front of a text lies between characters. -/
theorem isValid_byteLength {s : String} {front back : List Char} (hs : s.toList = front ++ back) :
    String.Pos.Raw.IsValid s ⟨byteLength front⟩ := by
  refine String.Pos.Raw.isValid_iff_exists_append.mpr
    ⟨String.ofList front, String.ofList back, ?_, ?_⟩
  · rw [← String.ofList_append, ← hs, String.ofList_toList]
  · rw [String.rawEndPos_ofList, Text.byteLength_eq_utf8Len]

/-- A part of a text that holds the given characters: so many bytes stand before it. -/
def Span.Holds (s : String) (span : Span) (p : List Char) : Prop :=
  ∃ before after, s.toList = before ++ p ++ after ∧
    span = ⟨byteLength before, byteLength before + byteLength p⟩

namespace Span.Holds

variable {s : String} {span : Span}

theorem cuts (h : span.Holds s p) : span.Cuts s := by
  obtain ⟨before, after, hs, rfl⟩ := h
  constructor
  · rw [List.append_assoc] at hs
    exact isValid_byteLength hs
  · rw [← Text.byteLength_append]
    exact isValid_byteLength hs

theorem text_eq (h : span.Holds s p) : span.text s = String.ofList p := by
  obtain ⟨before, after, hs, rfl⟩ := h
  rw [Span.text, ← String.ofList_toList (s := s), hs]
  simp only [Text.byteLength_eq_utf8Len]
  exact String.extract_of_valid before p after

end Span.Holds

/-- Each of the pieces of a text is held at its place. -/
theorem forall₂_holds_placed {s : String} {before : List Char}
    (hs : s.toList = before ++ separator.intercalate ps) :
    List.Forall₂ (Span.Holds s) (placed (byteLength before) (byteLength before) ps) ps := by
  induction ps generalizing before with
  | nil => exact .nil
  | cons p ps ih =>
      cases ps with
      | nil =>
          refine .cons ⟨before, [], ?_, rfl⟩ .nil
          simpa [List.intercalate] using hs
      | cons p' ps =>
          rw [List.intercalate_cons_cons] at hs
          refine .cons ⟨before, separator ++ separator.intercalate (p' :: ps), ?_, rfl⟩ ?_
          · simpa using hs
          · have hplace : byteLength before + byteLength p + 2 =
                byteLength (before ++ p ++ separator) := by
              rw [Text.byteLength_append, Text.byteLength_append]
              rfl
            rw [hplace]
            apply ih
            simpa using hs

theorem forall₂_holds_spans (s : String) :
    List.Forall₂ (Span.Holds s) (spans s) (pieces 0 s.toList) := by
  have hfront : s.toList = [] ++ separator.intercalate (pieces 0 s.toList) :=
    (intercalate_pieces 0 s.toList).symm
  rw [spans, Text.bytes_eq, spansFrom_bytes]
  exact forall₂_holds_placed hfront

theorem map_text_spans (s : String) :
    (spans s).map (Span.text s) = (pieces 0 s.toList).map String.ofList := by
  rw [← List.forall₂_eq_eq_eq, List.forall₂_map_left_iff, List.forall₂_map_right_iff]
  exact (forall₂_holds_spans s).imp fun _ _ h => h.text_eq

theorem cuts_spans (s : String) : ∀ span ∈ spans s, span.Cuts s := by
  have h := (forall₂_holds_spans s).imp fun span p hp => And.intro hp.cuts hp
  exact ((List.forall₂_and_left _ _).mp h).1

/-- The texts between the cuts, joined by the separator, give the text back. -/
theorem join_map_text_spans (s : String) : QualifiedName.join ((spans s).map (Span.text s)) = s := by
  rw [map_text_spans, QualifiedName.join, ← String.toList_inj, String.toList_intercalate,
    List.map_map]
  have hround : String.toList ∘ String.ofList = id := by
    funext cs
    exact String.toList_ofList
  rw [hround, List.map_id]
  exact intercalate_pieces 0 s.toList

/-! ## What splitting keeps -/

/-- What splitting keeps of a text. -/
structure SplitsExactly (s : String) : Prop where
  /-- Behind a text that ends closed, splitting starts afresh. -/
  append : EndsClosed 0 s.toList → ∀ t : String,
    segments (s ++ "::" ++ t).toList = segments s.toList ++ segments t.toList
  /-- A separator in front changes nothing. -/
  leading : segments ("::" ++ s).toList = segments s.toList
  /-- Nor does it change the name that is read. -/
  parse_leading : QualifiedName.parse ("::" ++ s) = QualifiedName.parse s
  /-- The pieces are what stands at the places the scan over bytes notes. -/
  text : (spans s).map (Span.text s) = (pieces 0 s.toList).map String.ofList
  /-- Joined by the separator, they give the text back. -/
  join : QualifiedName.join ((spans s).map (Span.text s)) = s
  /-- No cut falls inside a character. -/
  cuts : ∀ span ∈ spans s, span.Cuts s

theorem splitsExactly (s : String) : SplitsExactly s where
  append h t := by
    rw [String.toList_append, String.toList_append]
    exact segments_append_separator h
  leading := by
    rw [String.toList_append]
    exact segments_separator_append
  parse_leading := QualifiedName.parse_separator_append s
  text := map_text_spans s
  join := join_map_text_spans s
  cuts := cuts_spans s

/-- The separator inside the brackets does not cut, and the first character takes two bytes. -/
example : spans "é<a::b>::c" = [⟨0, 8⟩, ⟨10, 11⟩] := by decide +kernel

end Exposure.Name
