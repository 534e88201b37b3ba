import Exposure.Proofs.Name.RoundTrip

/-!
# Names that were read

The segments of a name that was read are trimmed raw pieces.  Trimming drops blanks, and a blank is
neither a bracket nor a colon: what did not split still does not, and what ended at depth zero still
does.  But the last character may be another one, so that a segment ends with a colon that had a
blank behind it.  This is the only way in which a name that was read fails to come back from its
written form.
-/

namespace Exposure

namespace Name

variable {d : Nat} {c : Char} {cs ds p s : List Char}

theorem depthAfter_append : depthAfter d (cs ++ ds) = depthAfter (depthAfter d cs) ds :=
  List.foldl_append

/-- A blank is no bracket. -/
theorem nextDepth_of_isBlank (h : Text.isBlank c = true) : nextDepth d c = d := by
  have hopen : c ≠ '<' := by
    rintro rfl
    exact absurd h (by decide)
  have hclose : c ≠ '>' := by
    rintro rfl
    exact absurd h (by decide)
  rw [nextDepth, if_neg hopen, if_neg hclose]

theorem depthAfter_of_all_isBlank (h : cs.all Text.isBlank = true) : depthAfter d cs = d := by
  induction cs with
  | nil => rfl
  | cons c cs ih =>
      rw [List.all_cons, Bool.and_eq_true] at h
      rw [depthAfter_cons, nextDepth_of_isBlank h.1, ih h.2]

@[simp] theorem depthAfter_trimChars : depthAfter d (Text.trimChars cs) = depthAfter d cs := by
  obtain ⟨front, back, hfront, hback, happ⟩ := Text.exists_trimChars cs
  calc
    depthAfter d (Text.trimChars cs) = depthAfter d (front ++ Text.trimChars cs ++ back) := by
      rw [depthAfter_append, depthAfter_append, depthAfter_of_all_isBlank hfront,
        depthAfter_of_all_isBlank hback]
    _ = depthAfter d cs := by rw [happ]

/-- Where a trimmed text splits, the text itself does. -/
theorem SplitsAt.of_trimChars (h : SplitsAt d (Text.trimChars cs)) : SplitsAt d cs := by
  obtain ⟨front, back, hfront, -, happ⟩ := Text.exists_trimChars cs
  obtain ⟨before, after, heq, hd⟩ := h
  refine ⟨front ++ before, after ++ back, ?_, ?_⟩
  · rw [← happ, heq]
    simp only [List.append_assoc]
  · rw [depthAfter_append, depthAfter_of_all_isBlank hfront]
    exact hd

/-! ## What the pieces and the segments of a text are like -/

theorem not_splitsAt_of_mem_pieces (h : p ∈ pieces 0 cs) : ¬ SplitsAt 0 p := by
  have hpieces := (pieces_intercalate_iff (pieces_ne_nil 0 cs)).mp
    (congrArg (pieces 0) (intercalate_pieces 0 cs))
  exact hpieces.1 p h

theorem endsClosed_of_mem_dropLast_pieces (h : p ∈ (pieces 0 cs).dropLast) : EndsClosed 0 p := by
  have hpieces := (pieces_intercalate_iff (pieces_ne_nil 0 cs)).mp
    (congrArg (pieces 0) (intercalate_pieces 0 cs))
  exact hpieces.2 p h

theorem exists_piece_of_mem_segments (h : s ∈ segments cs) :
    s ≠ [] ∧ ∃ p ∈ pieces 0 cs, Text.trimChars p = s := by
  rw [segments, List.mem_filter, List.mem_map] at h
  exact ⟨by simpa using h.2, h.1⟩

theorem whole_of_mem_segments (h : s ∈ segments cs) : Whole s := by
  obtain ⟨hne, p, -, rfl⟩ := exists_piece_of_mem_segments h
  exact ⟨Text.trimmed_trimChars p, hne⟩

theorem not_splitsAt_of_mem_segments (h : s ∈ segments cs) : ¬ SplitsAt 0 s := by
  obtain ⟨-, p, hp, rfl⟩ := exists_piece_of_mem_segments h
  exact fun hsplits => not_splitsAt_of_mem_pieces hp hsplits.of_trimChars

/-- A filtered list without its last item has only items of the list without its last one. -/
theorem dropLast_filter_subset {α : Type} (q : α → Bool) (l : List α) :
    (l.filter q).dropLast ⊆ l.dropLast := by
  have hsub : (l.filter q).dropLast.reverse.Sublist l.dropLast.reverse := by
    rw [← List.tail_reverse, ← List.tail_reverse, ← List.filter_reverse]
    exact List.filter_sublist.tail
  exact (List.reverse_sublist.mp hsub).subset

theorem depthAfter_of_mem_dropLast_segments (h : s ∈ (segments cs).dropLast) :
    depthAfter 0 s = 0 := by
  have hmem := dropLast_filter_subset _ _ h
  rw [← List.map_dropLast] at hmem
  obtain ⟨p, hp, rfl⟩ := List.mem_map.mp hmem
  rw [depthAfter_trimChars]
  exact (endsClosed_of_mem_dropLast_pieces hp).depth_eq

end Name

namespace QualifiedName

variable {text : String}

theorem parse_of_segments_eq_nil (h : Name.segments text.toList = []) : parse text = ⟨[], ""⟩ := by
  rw [parse, h]
  rfl

theorem map_segments_parse (h : Name.segments text.toList ≠ []) :
    (parse text).segments.map String.toList = Name.segments text.toList := by
  rw [parse, segments_ofSegments _ (by simpa using h)]
  exact (map_ofList_eq_iff.mp rfl).symm

theorem segments_display_parse_iff (h : Name.segments text.toList ≠ []) :
    Name.segments (parse text).display.toList = (parse text).segments.map String.toList ↔
      ∀ s ∈ (parse text).enclosing, s.toList.getLast? ≠ some ':' := by
  have hread : ∀ s ∈ (parse text).segments, Readable s := by
    intro s hs
    have hmem : s.toList ∈ Name.segments text.toList :=
      map_segments_parse h ▸ List.mem_map_of_mem hs
    exact ⟨Name.whole_of_mem_segments hmem, Name.not_splitsAt_of_mem_segments hmem⟩
  have hdepth : ∀ s ∈ (parse text).enclosing, Name.depthAfter 0 s.toList = 0 := by
    intro s hs
    have hmem : s.toList ∈ (Name.segments text.toList).dropLast := by
      rw [← map_segments_parse h, ← List.map_dropLast]
      exact List.mem_map_of_mem (by simpa [segments] using hs)
    exact Name.depthAfter_of_mem_dropLast_segments hmem
  rw [segments_display_iff, and_iff_right hread]
  exact forall₂_congr fun s hs =>
    ⟨fun hclosed => hclosed.last_ne, fun hlast => ⟨hdepth s hs, hlast⟩⟩

/-- A name that was read comes back from its written form exactly when no enclosing segment ends
with a colon. -/
theorem parse_display_parse_iff (text : String) :
    parse (parse text).display = parse text ↔
      ∀ s ∈ (parse text).enclosing, s.toList.getLast? ≠ some ':' := by
  by_cases h : Name.segments text.toList = []
  · rw [parse_of_segments_eq_nil h]
    exact iff_of_true (by decide) (by simp)
  · have hsegments := map_segments_parse h
    have hempty : parse text ≠ ⟨[], ""⟩ := by
      intro hq
      have hblank : [] ∈ Name.segments text.toList := by
        rw [← hsegments, hq]
        exact List.mem_singleton_self []
      exact (Name.whole_of_mem_segments hblank).ne_nil rfl
    rw [← segments_display_parse_iff h, parse, ofSegments_eq_iff, map_ofList_eq_iff]
    exact or_iff_left fun hq => hempty hq.2

/-- A name that was read from some text. -/
def IsParsed (q : QualifiedName) : Prop := ∃ text, parse text = q

theorem IsParsed.parse_display_iff {q : QualifiedName} (h : q.IsParsed) :
    parse q.display = q ↔ ∀ s ∈ q.enclosing, s.toList.getLast? ≠ some ':' := by
  obtain ⟨text, rfl⟩ := h
  exact parse_display_parse_iff text

/-- The blank behind the colon is dropped, and the colon is taken for a part of the separator. -/
example : parse (parse "a: ::b").display = ⟨["a"], ":b"⟩ := by decide +kernel

end QualifiedName

end Exposure
