import Exposure.Name.Basic
import Exposure.Proofs.Name.Splitting

/-!
# Names that come back from their written form

A name is written by joining its segments and read by splitting, trimming and dropping what is
blank.  Trimming and dropping only ever lose characters, and the written form has as many of them as
the segments and separators together.  So a name that comes back lost nothing: its segments were the
raw pieces already.  This turns the round trip into a condition on the segments.
-/

namespace Exposure

namespace Name

variable {cs : List Char} {ps ss : List (List Char)}

/-- The trimmed pieces that are not blank, from the raw pieces. -/
def kept (ps : List (List Char)) : List (List Char) :=
  (ps.map Text.trimChars).filter (! ·.isEmpty)

/-- The length of joined segments, with one more separator. -/
def joinedLength : List (List Char) → Nat
  | [] => 0
  | s :: ss => s.length + 2 + joinedLength ss

theorem joinedLength_cons (s : List Char) (ss : List (List Char)) :
    joinedLength (s :: ss) = s.length + 2 + joinedLength ss := rfl

theorem length_intercalate (h : ss ≠ []) :
    (separator.intercalate ss).length + 2 = joinedLength ss := by
  induction ss with
  | nil => exact absurd rfl h
  | cons s ss ih =>
      cases ss with
      | nil => simp [joinedLength]
      | cons s' ss =>
          have hrest := ih (List.cons_ne_nil s' ss)
          rw [joinedLength_cons, ← hrest, List.intercalate_cons_cons]
          simp [separator]
          omega

/-- A raw piece is kept as it is when it is not empty and has no blank at either end. -/
structure Whole (s : List Char) : Prop extends Text.Trimmed s where
  ne_nil : s ≠ []

/-- Between two texts that are kept as they are anything may stand. -/
theorem Whole.append {s t : List Char} (hs : Whole s) (ht : Whole t) (mid : List Char) :
    Whole (s ++ mid ++ t) where
  head_not_blank c hc := by
    obtain ⟨b, s, rfl⟩ := List.exists_cons_of_ne_nil hs.ne_nil
    exact hs.head_not_blank c hc
  last_not_blank c hc := by
    rw [List.getLast?_append] at hc
    cases hlast : t.getLast? with
    | none => exact absurd (List.getLast?_eq_none_iff.mp hlast) ht.ne_nil
    | some b =>
        rw [hlast, Option.some_or] at hc
        exact ht.last_not_blank c (hlast.trans hc)
  ne_nil := by simp [hs.ne_nil]

theorem Whole.intercalate (h : ∀ s ∈ ss, Whole s) (hne : ss ≠ []) :
    Whole (separator.intercalate ss) := by
  induction ss with
  | nil => exact absurd rfl hne
  | cons s ss ih =>
      rw [List.forall_mem_cons] at h
      cases ss with
      | nil => simpa [List.intercalate] using h.1
      | cons s' ss =>
          rw [List.intercalate_cons_cons]
          exact h.1.append (ih h.2 (List.cons_ne_nil s' ss)) separator

theorem kept_cons_of_trim_eq_nil {p : List Char} (h : Text.trimChars p = []) :
    kept (p :: ps) = kept ps := by
  simp [kept, h]

theorem kept_cons_of_trim_ne_nil {p : List Char} (h : Text.trimChars p ≠ []) :
    kept (p :: ps) = Text.trimChars p :: kept ps := by
  simp [kept, h]

theorem kept_eq_self (h : ∀ p ∈ ps, Whole p) : kept ps = ps := by
  induction ps with
  | nil => rfl
  | cons p ps ih =>
      rw [List.forall_mem_cons] at h
      have htrim : Text.trimChars p = p := (Text.trimChars_eq_self_iff p).mpr h.1.toTrimmed
      have hne : Text.trimChars p ≠ [] := htrim.symm ▸ h.1.ne_nil
      rw [kept_cons_of_trim_ne_nil hne, htrim, ih h.2]

theorem joinedLength_kept_le (ps : List (List Char)) :
    joinedLength (kept ps) ≤ joinedLength ps := by
  induction ps with
  | nil => exact Nat.le_refl 0
  | cons p ps ih =>
      have hle := (Text.trimChars_sublist p).length_le
      by_cases h : Text.trimChars p = []
      · rw [kept_cons_of_trim_eq_nil h, joinedLength_cons]
        omega
      · rw [kept_cons_of_trim_ne_nil h, joinedLength_cons, joinedLength_cons]
        omega

/-- Pieces that lose no length lose nothing. -/
theorem whole_of_joinedLength_le (h : joinedLength ps ≤ joinedLength (kept ps)) :
    ∀ p ∈ ps, Whole p := by
  induction ps with
  | nil => simp
  | cons p ps ih =>
      have hsub := Text.trimChars_sublist p
      have hle := hsub.length_le
      have hrest := joinedLength_kept_le ps
      by_cases hp : Text.trimChars p = []
      · rw [kept_cons_of_trim_eq_nil hp, joinedLength_cons] at h
        omega
      · rw [kept_cons_of_trim_ne_nil hp, joinedLength_cons, joinedLength_cons] at h
        have htrim : Text.trimChars p = p := hsub.eq_of_length (by omega)
        refine List.forall_mem_cons.mpr ⟨⟨?_, htrim ▸ hp⟩, ih (by omega)⟩
        exact (Text.trimChars_eq_self_iff p).mp htrim

/-- Joined segments are read back exactly when they are the raw pieces and each is kept. -/
theorem segments_intercalate_iff (h : ss ≠ []) :
    segments (separator.intercalate ss) = ss ↔
      pieces 0 (separator.intercalate ss) = ss ∧ ∀ s ∈ ss, Whole s := by
  constructor
  · intro hss
    have hkept : kept (pieces 0 (separator.intercalate ss)) = ss := hss
    -- pieces and segments join to the same text, so nothing of the pieces can have been lost
    have hlen : joinedLength (pieces 0 (separator.intercalate ss)) = joinedLength ss := by
      rw [← length_intercalate (pieces_ne_nil 0 _), intercalate_pieces, length_intercalate h]
    have hle : joinedLength (pieces 0 (separator.intercalate ss)) ≤
        joinedLength (kept (pieces 0 (separator.intercalate ss))) := by
      exact Nat.le_of_eq (hlen.trans (congrArg joinedLength hkept.symm))
    have hwhole := whole_of_joinedLength_le hle
    rw [kept_eq_self hwhole] at hkept
    rw [hkept] at hwhole
    exact ⟨hkept, hwhole⟩
  · rintro ⟨hpieces, hwhole⟩
    have hkept : segments (separator.intercalate ss) = kept ss := by
      rw [segments, hpieces, kept]
    rw [hkept, kept_eq_self hwhole]

end Name

namespace QualifiedName

/-- A segment that comes back: it is not empty, has no blank at either end and does not split. -/
structure Readable (s : String) : Prop where
  whole : Name.Whole s.toList
  not_splits : ¬ Name.SplitsAt 0 s.toList

theorem toList_display (q : QualifiedName) :
    q.display.toList = Name.separator.intercalate (q.segments.map String.toList) := by
  rw [display, join, String.toList_intercalate]
  rfl

/-- The name of a list of segments has these segments, or there are none and it is empty. -/
theorem ofSegments_eq_iff {ss : List String} {q : QualifiedName} :
    ofSegments ss = q ↔ ss = q.segments ∨ ss = [] ∧ q = ⟨[], ""⟩ := by
  constructor
  · rintro rfl
    cases ss with
    | nil => exact .inr ⟨rfl, rfl⟩
    | cons s ss => exact .inl (segments_ofSegments (s :: ss) (List.cons_ne_nil s ss)).symm
  · rintro (rfl | ⟨rfl, rfl⟩)
    · exact ofSegments_segments q
    · rfl

theorem map_ofList_eq_iff {ss : List (List Char)} {ts : List String} :
    ss.map String.ofList = ts ↔ ss = ts.map String.toList := by
  constructor
  · rintro rfl
    simp [Function.comp_def]
  · rintro rfl
    simp [Function.comp_def]

/-- The text of a name is read as the segments of the name exactly when all are readable and the
enclosing ones end closed. -/
theorem segments_display_iff (q : QualifiedName) :
    Name.segments q.display.toList = q.segments.map String.toList ↔
      (∀ s ∈ q.segments, Readable s) ∧ ∀ s ∈ q.enclosing, Name.EndsClosed 0 s.toList := by
  have hne : q.segments.map String.toList ≠ [] := by simp [segments]
  have hinit : (q.segments.map String.toList).dropLast = q.enclosing.map String.toList := by
    simp [segments]
  rw [toList_display, Name.segments_intercalate_iff hne, Name.pieces_intercalate_iff hne, hinit]
  simp only [List.forall_mem_map]
  constructor
  · rintro ⟨⟨hsplits, hclosed⟩, hwhole⟩
    exact ⟨fun s hs => ⟨hwhole s hs, hsplits s hs⟩, hclosed⟩
  · rintro ⟨hread, hclosed⟩
    exact ⟨⟨fun s hs => (hread s hs).not_splits, hclosed⟩, fun s hs => (hread s hs).whole⟩

/-- A name comes back from its written form exactly when it is empty or all of its segments are
readable and the enclosing ones end closed. -/
theorem parse_display_eq_iff (q : QualifiedName) :
    parse q.display = q ↔
      (q.enclosing = [] ∧ q.name = "") ∨
        (∀ s ∈ q.segments, Readable s) ∧ ∀ s ∈ q.enclosing, Name.EndsClosed 0 s.toList := by
  rw [parse, ofSegments_eq_iff, map_ofList_eq_iff, segments_display_iff, or_comm]
  refine or_congr_left ?_
  rcases q with ⟨enclosing, name⟩
  constructor
  · rintro ⟨-, h⟩
    exact ⟨congrArg QualifiedName.enclosing h, congrArg QualifiedName.name h⟩
  · rintro ⟨rfl, rfl⟩
    exact ⟨rfl, rfl⟩

/-- The written form of a name that comes back has no blank at either end, unless the name is
empty. -/
theorem whole_display {q : QualifiedName} (h : parse q.display = q) (hne : q ≠ ⟨[], ""⟩) :
    Name.Whole q.display.toList := by
  rw [parse, ofSegments_eq_iff, map_ofList_eq_iff, or_iff_left fun hq => hne hq.2,
    segments_display_iff] at h
  rw [toList_display]
  refine Name.Whole.intercalate ?_ (by simp [segments])
  rw [List.forall_mem_map]
  exact fun s hs => (h.1 s hs).whole

/-- A separator between brackets does no harm. -/
example : parse (display ⟨["vec<a::b>"], "at"⟩) = ⟨["vec<a::b>"], "at"⟩ := by decide +kernel

/-- A bracket that stays open hides the separator behind it. -/
example : parse (display ⟨["a<"], "b"⟩) = ⟨[], "a<::b"⟩ := by decide +kernel

end QualifiedName

end Exposure
