import Mathlib.Data.List.Basic
import Exposure.Proofs.Instantiation.Checked

/-!
# Lines of a header

A header is written as a text, every line of it ended by a newline.  The lines can be told apart
again when none of them has a newline inside, and a line has none when the path or the row that it
is made of has none: the names in a header that passes its checks are identifiers.
-/

namespace Exposure

/-- A text without a line break. -/
def OneLine (s : String) : Prop := '\n' ∉ s.toList

instance (s : String) : Decidable (OneLine s) := inferInstanceAs (Decidable ('\n' ∉ s.toList))

variable {s t : String}

theorem OneLine.forall_ne (hs : OneLine s) : ∀ c ∈ s.toList, decide (c ≠ '\n') = true := by
  intro c hc
  exact decide_eq_true fun h => hs (h ▸ hc)

theorem OneLine.append (hs : OneLine s) (ht : OneLine t) : OneLine (s ++ t) := by
  simpa [OneLine] using And.intro hs ht

theorem OneLine.intercalate {ss : List String} (hs : OneLine s) (hss : ∀ x ∈ ss, OneLine x) :
    OneLine (s.intercalate ss) := by
  induction ss with
  | nil => simp [OneLine]
  | cons x ss ih =>
      rw [List.forall_mem_cons] at hss
      cases ss with
      | nil => simpa using hss.1
      | cons y ss =>
          rw [String.intercalate_cons_cons]
          exact (hss.1.append hs).append (ih hss.2)

theorem OneLine.trim (hs : OneLine s) : OneLine (Text.trim s) := by
  intro h
  rw [Text.toList_trim] at h
  exact hs ((Text.trimChars_sublist s.toList).subset h)

theorem oneLine_of_isIdentifier (h : isIdentifier s = true) : OneLine s := by
  intro hmem
  unfold isIdentifier at h
  cases hs : s.toList with
  | nil => simp [hs] at hmem
  | cons c cs =>
      rw [hs] at h hmem
      simp only [Bool.and_eq_true, List.all_eq_true] at h
      rcases List.mem_cons.mp hmem with rfl | hmem
      · exact absurd h.1 (by decide)
      · exact absurd (h.2 '\n' hmem) (by decide)

/-- A row whose texts have no line break. -/
structure Instantiation.SingleLine (r : Instantiation) : Prop where
  generic : OneLine r.generic
  arguments : ∀ a ∈ r.arguments, OneLine a

theorem Instantiation.SingleLine.typeText {r : Instantiation} (h : r.SingleLine) :
    OneLine r.typeText := by
  have hargs : OneLine r.argumentText := by
    apply OneLine.intercalate (by decide)
    intro x hx
    obtain ⟨a, ha, rfl⟩ := List.mem_map.mp hx
    exact (h.arguments a ha).trim
  have hpad : OneLine (closingPad r.argumentText) := by
    unfold closingPad
    split <;> decide
  unfold Instantiation.typeText
  exact (((h.generic.trim.append (by decide)).append hargs).append hpad).append (by decide)

/-! ## Lines of a text -/

/-- There is one way to split a list behind the elements at its front that pass a test. -/
theorem append_inj_of_head {α : Type} (p : α → Bool) {xs xs' ys ys' : List α}
    (hx : ∀ x ∈ xs, p x = true) (hx' : ∀ x ∈ xs', p x = true)
    (hy : ∀ y ∈ ys.head?, p y = false) (hy' : ∀ y ∈ ys'.head?, p y = false) :
    xs ++ ys = xs' ++ ys' ↔ xs = xs' ∧ ys = ys' := by
  have front {us vs : List α} (hu : ∀ u ∈ us, p u = true) (hv : ∀ v ∈ vs.head?, p v = false) :
      (us ++ vs).takeWhile p = us := by
    rw [List.takeWhile_append_of_pos hu]
    cases vs with
    | nil => simp
    | cons v vs => simp [hv v rfl]
  constructor
  · intro h
    have hfront : xs = xs' := by
      rw [← front hx hy, h, front hx' hy']
    exact ⟨hfront, List.append_cancel_left (hfront ▸ h)⟩
  · rintro ⟨rfl, rfl⟩
    rfl

namespace HeaderOptions

theorem toList_unlines_cons (l : String) (ls : List String) :
    (unlines (l :: ls)).toList = l.toList ++ '\n' :: (unlines ls).toList := by
  simp [unlines, String.toList_join]

/-- Lines without a break inside can be told apart in the text that they make. -/
theorem unlines_inj {ls ms : List String} (hl : ∀ l ∈ ls, OneLine l) (hm : ∀ m ∈ ms, OneLine m) :
    unlines ls = unlines ms ↔ ls = ms := by
  rw [← String.toList_inj]
  induction ls generalizing ms with
  | nil =>
      cases ms with
      | nil => simp
      | cons m ms => simp [unlines]
  | cons l ls ih =>
      cases ms with
      | nil => simp [unlines]
      | cons m ms =>
          rw [List.forall_mem_cons] at hl hm
          rw [toList_unlines_cons, toList_unlines_cons,
            append_inj_of_head (· ≠ '\n') hl.1.forall_ne hm.1.forall_ne (by simp) (by simp),
            String.toList_inj, List.cons_inj_right, ih hl.2 hm.2, List.cons.injEq]

/-! ## The lines of a header -/

variable {o : HeaderOptions}

theorem oneLine_includeLine {path : String} (h : OneLine path) : OneLine (o.includeLine path) := by
  unfold includeLine
  cases o.includeStyle
  · exact (OneLine.append (by decide) h).append (by decide)
  · exact (OneLine.append (by decide) h).append (by decide)

theorem oneLine_aliasLine {r : Instantiation} (h : OneLine r.typeText)
    (ha : isIdentifier r.aliasName = true) : OneLine (o.aliasLine r) := by
  have halias := oneLine_of_isIdentifier ha
  unfold aliasLine
  cases o.aliasStyle
  · exact (((OneLine.append (by decide) h).append (by decide)).append halias).append (by decide)
  · exact (((OneLine.append (by decide) halias).append (by decide)).append h).append (by decide)

theorem oneLine_probeLine {r : Instantiation} (h : OneLine r.typeText) : OneLine (probeLine r) :=
  (OneLine.append (by decide) h).append (by decide)

theorem oneLine_openLine (h : ∀ s ∈ o.scopes, isIdentifier s = true) : OneLine o.openLine := by
  apply OneLine.intercalate (by decide)
  intro x hx
  obtain ⟨s, hs, rfl⟩ := List.mem_map.mp hx
  exact (OneLine.append (by decide) (oneLine_of_isIdentifier (h s hs))).append (by decide)

theorem oneLine_closeLine : OneLine o.closeLine := by
  apply OneLine.intercalate (by decide)
  intro x hx
  obtain ⟨s, -, rfl⟩ := List.mem_map.mp hx
  decide

theorem oneLine_of_mem_inScopes {inner : List String}
    (hs : ∀ s ∈ o.scopes, isIdentifier s = true) (hi : ∀ l ∈ inner, OneLine l) :
    ∀ l ∈ o.inScopes inner, OneLine l := by
  unfold inScopes
  split
  · exact hi
  · simp only [List.forall_mem_append, List.forall_mem_cons]
    exact ⟨⟨⟨oneLine_openLine hs, by decide, by simp⟩, hi⟩, by decide, oneLine_closeLine, by simp⟩

theorem oneLine_of_mem_probeLines {t : InstantiationTable}
    (hp : isIdentifier o.probeFunction = true) (ht : ∀ r ∈ t.rows, OneLine r.typeText) :
    ∀ l ∈ o.probeLines t, OneLine l := by
  have hopen : OneLine ("    inline void " ++ o.probeFunction ++ "() \x7b") :=
    (OneLine.append (by decide) (oneLine_of_isIdentifier hp)).append (by decide)
  unfold probeLines
  simp only [List.forall_mem_append, List.forall_mem_singleton, List.forall_mem_map]
  exact ⟨⟨hopen, fun r hr => oneLine_probeLine (ht r hr)⟩, by decide⟩

/-- The lines of a header that passes its checks are lines when no path and no type has a break. -/
theorem oneLine_of_mem_lines_of_typeText {paths : List String} {t : InstantiationTable}
    (hc : o.check t = .ok ()) (hp : ∀ p ∈ paths, OneLine p)
    (ht : ∀ r ∈ t.rows, OneLine r.typeText) : ∀ l ∈ o.lines paths t, OneLine l := by
  obtain ⟨htable, hoptions, -⟩ := (o.check_eq_ok_iff t).mp hc
  obtain ⟨hscopes, hprobe⟩ := o.validate_eq_ok_iff.mp hoptions
  have hinclude : ∀ l ∈ paths.map o.includeLine, OneLine l := by
    simpa using fun p h => oneLine_includeLine (hp p h)
  have halias : ∀ l ∈ t.rows.map o.aliasLine, OneLine l := by
    rw [List.forall_mem_map]
    intro r hr
    have hfault := (t.validate_eq_ok_iff.mp htable).1 r hr
    exact oneLine_aliasLine (ht r hr) (r.fault?_eq_none_iff.mp hfault).2.2.2
  have hblock : ∀ l ∈ o.blockLines t, OneLine l := by
    apply oneLine_of_mem_inScopes hscopes
    simp only [List.forall_mem_append, List.forall_mem_singleton]
    exact ⟨⟨halias, by decide⟩, oneLine_of_mem_probeLines hprobe ht⟩
  unfold lines
  split
  · exact hinclude
  · split
    · exact hblock
    · simp only [List.forall_mem_append, List.forall_mem_singleton]
      exact ⟨⟨hinclude, by decide⟩, hblock⟩

/-- The lines of a header that passes its checks are lines. -/
theorem oneLine_of_mem_lines {paths : List String} {t : InstantiationTable}
    (hc : o.check t = .ok ()) (hp : ∀ p ∈ paths, OneLine p) (ht : ∀ r ∈ t.rows, r.SingleLine) :
    ∀ l ∈ o.lines paths t, OneLine l :=
  oneLine_of_mem_lines_of_typeText hc hp fun r hr => (ht r hr).typeText

end HeaderOptions

end Exposure
