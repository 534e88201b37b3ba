import Exposure.Name.Segments

/-!
# Splitting what was joined

Joining segments and splitting the text again gives the segments back only if none of them splits by
itself and none but the last reaches beyond its end: an open bracket hides the separator that
follows, and a colon in front of it makes a separator one character too early.
-/

namespace Exposure.Name

variable {d : Nat} {c : Char} {cs rest : List Char} {s : List Char}

/-- Somewhere in a text a separator stands at depth zero, counted from the given depth on. -/
def SplitsAt (d : Nat) (cs : List Char) : Prop :=
  ∃ before after, cs = before ++ separator ++ after ∧ depthAfter d before = 0

/-- A text after which a separator counts: it ends at depth zero, and not with half a separator. -/
structure EndsClosed (d : Nat) (cs : List Char) : Prop where
  depth_eq : depthAfter d cs = 0
  last_ne : cs.getLast? ≠ some ':'

theorem not_splitsAt_nil : ¬ SplitsAt d [] := by
  rintro ⟨before, after, h, -⟩
  simp [separator] at h

/-- A text splits at its front or behind its first character. -/
theorem splitsAt_cons :
    SplitsAt d (c :: cs) ↔
      (d = 0 ∧ c = ':' ∧ cs.head? = some ':') ∨ SplitsAt (nextDepth d c) cs := by
  constructor
  · rintro ⟨before, after, h, hd⟩
    cases before with
    | nil =>
        rw [List.nil_append, separator, List.cons_append, List.cons.injEq] at h
        exact .inl ⟨hd, h.1, by simp [h.2]⟩
    | cons b before =>
        rw [List.cons_append, List.cons_append, List.cons.injEq] at h
        obtain ⟨rfl, h⟩ := h
        exact .inr ⟨before, after, h, hd⟩
  · rintro (⟨rfl, rfl, h⟩ | ⟨before, after, rfl, hd⟩)
    · obtain ⟨after, rfl⟩ := List.head?_eq_some_iff.mp h
      exact ⟨[], after, rfl, rfl⟩
    · exact ⟨c :: before, after, rfl, hd⟩

theorem endsClosed_nil : EndsClosed d [] ↔ d = 0 :=
  ⟨fun h => h.depth_eq, fun h => ⟨h, by simp⟩⟩

theorem endsClosed_cons :
    EndsClosed d (c :: cs) ↔ ¬ (d = 0 ∧ c = ':' ∧ cs = []) ∧ EndsClosed (nextDepth d c) cs := by
  cases cs with
  | nil =>
      constructor
      · rintro ⟨hd, hc⟩
        exact ⟨fun h => hc (by simp [h.2.1]), endsClosed_nil.mpr hd⟩
      · rintro ⟨hn, hd⟩
        refine ⟨hd.depth_eq, fun hc => ?_⟩
        obtain rfl : c = ':' := by simpa using hc
        exact hn ⟨hd.depth_eq, rfl, rfl⟩
  | cons c' cs =>
      constructor
      · rintro ⟨hd, hc⟩
        exact ⟨by simp, hd, by simpa using hc⟩
      · rintro ⟨-, hd, hc⟩
        exact ⟨hd, by simpa using hc⟩

/-! ## One piece and the first piece -/

/-- A character that does not start a separator goes to the piece behind it. -/
theorem pieces_cons_of_not (h : ¬ (d = 0 ∧ c = ':' ∧ cs.head? = some ':')) :
    pieces d (c :: cs) = (pieces (nextDepth d c) cs).modifyHead (c :: ·) := by
  cases cs with
  | nil => rfl
  | cons c' cs =>
      rw [pieces, if_neg]
      simpa using h

theorem modifyHead_cons_eq_iff {ps qs : List (List Char)} :
    ps.modifyHead (c :: ·) = (c :: cs) :: qs ↔ ps = cs :: qs := by
  cases ps <;> simp

/-- A text is one piece exactly when it does not split. -/
theorem pieces_eq_singleton_iff : pieces d cs = [cs] ↔ ¬ SplitsAt d cs := by
  induction cs generalizing d with
  | nil => simp [not_splitsAt_nil]
  | cons c cs ih =>
      by_cases h : d = 0 ∧ c = ':' ∧ cs.head? = some ':'
      · have hsplits : SplitsAt d (c :: cs) := splitsAt_cons.mpr (.inl h)
        obtain ⟨rfl, rfl, hhead⟩ := h
        obtain ⟨rest, rfl⟩ := List.head?_eq_some_iff.mp hhead
        simp [hsplits]
      · rw [pieces_cons_of_not h, modifyHead_cons_eq_iff, ih, splitsAt_cons, or_iff_right h]

/-- A text in front of a separator is the first piece exactly when it does not split and ends
closed. -/
theorem pieces_append_separator_iff {qs : List (List Char)} :
    pieces d (s ++ separator ++ rest) = s :: qs ↔
      (¬ SplitsAt d s ∧ EndsClosed d s) ∧ pieces 0 rest = qs := by
  induction s generalizing d with
  | nil =>
      rw [endsClosed_nil, and_iff_right not_splitsAt_nil, List.nil_append, separator,
        List.cons_append, List.cons_append, List.nil_append]
      by_cases hd : d = 0
      · subst hd
        simp
      · rw [pieces_cons_of_not fun h => hd h.1]
        cases pieces (nextDepth d ':') (':' :: rest) <;> simp [hd]
  | cons c s ih =>
      rw [List.cons_append, List.cons_append, splitsAt_cons, endsClosed_cons]
      by_cases h : d = 0 ∧ c = ':' ∧ (s ++ separator ++ rest).head? = some ':'
      · obtain ⟨rfl, rfl, hhead⟩ := h
        obtain ⟨rest', hrest'⟩ := List.head?_eq_some_iff.mp hhead
        -- the second colon is in the text, which then splits, or is borrowed from the separator
        rw [hrest', pieces_separator]
        cases s with
        | nil => simp
        | cons c' s =>
            obtain rfl : c' = ':' := by simpa using hhead
            simp
      · have hs : ¬ (d = 0 ∧ c = ':' ∧ s.head? = some ':') := by
          rintro ⟨hd, hc, hhead⟩
          exact h ⟨hd, hc, by simp [hhead]⟩
        have hnil : ¬ (d = 0 ∧ c = ':' ∧ s = []) := by
          rintro ⟨hd, hc, rfl⟩
          exact h ⟨hd, hc, rfl⟩
        rw [pieces_cons_of_not h, modifyHead_cons_eq_iff, ih, or_iff_right hs, and_iff_right hnil]

/-! ## Joined segments -/

/-- Joined segments are split into themselves exactly when none of them splits and all but the last
end closed. -/
theorem pieces_intercalate_iff {ss : List (List Char)} (h : ss ≠ []) :
    pieces 0 (separator.intercalate ss) = ss ↔
      (∀ s ∈ ss, ¬ SplitsAt 0 s) ∧ ∀ s ∈ ss.dropLast, EndsClosed 0 s := by
  induction ss with
  | nil => exact absurd rfl h
  | cons s ss ih =>
      cases ss with
      | nil => simp [pieces_eq_singleton_iff]
      | cons s' ss =>
          rw [List.intercalate_cons_cons, pieces_append_separator_iff, ih (List.cons_ne_nil s' ss),
            List.dropLast_cons_cons, List.forall_mem_cons (a := s), List.forall_mem_cons (a := s)]
          exact and_and_and_comm

end Exposure.Name
