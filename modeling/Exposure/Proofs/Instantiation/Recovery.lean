import Exposure.Proofs.Instantiation.Lines

/-!
# What can be read off a header

The included files stand in front of everything else, one line each, and no line behind them starts
like theirs.  Every row has a line for its alias and a line for its probe; the probe gives the text
of the type back, and with it the other line gives the alias back.  So two headers of one layout are
the same text only if they include the same files and declare the same types under the same aliases.
-/

namespace Exposure

/-- What a header says of a row: the text of its type and its alias. -/
def Instantiation.declared (r : Instantiation) : String × String := (r.typeText, r.aliasName)

namespace HeaderOptions

variable {o : HeaderOptions} {paths paths' : List String} {t t' : InstantiationTable}

/-! ## One row -/

theorem probeLine_inj {r r' : Instantiation} :
    probeLine r = probeLine r' ↔ r.typeText = r'.typeText := by
  unfold probeLine
  rw [String.append_left_inj, String.append_right_inj]

/-- The two lines of a row give back what it declares. -/
theorem declared_eq_iff (o : HeaderOptions) {r r' : Instantiation} :
    r.declared = r'.declared ↔
      o.aliasLine r = o.aliasLine r' ∧ probeLine r = probeLine r' := by
  rw [probeLine_inj, Instantiation.declared, Instantiation.declared, Prod.mk.injEq, and_comm]
  refine and_congr_left fun htype => ?_
  unfold aliasLine
  rw [htype]
  cases o.aliasStyle
  · rw [String.append_left_inj, String.append_right_inj]
  · rw [String.append_left_inj, String.append_left_inj, String.append_left_inj,
      String.append_right_inj]

theorem map_declared_eq_iff (o : HeaderOptions) {rs rs' : List Instantiation} :
    rs.map Instantiation.declared = rs'.map Instantiation.declared ↔
      rs.map o.aliasLine = rs'.map o.aliasLine ∧ rs.map probeLine = rs'.map probeLine := by
  induction rs generalizing rs' with
  | nil => cases rs' <;> simp
  | cons r rs ih =>
      cases rs' with
      | nil => simp
      | cons r' rs' =>
          simp only [List.map_cons, List.cons.injEq, ih, o.declared_eq_iff]
          exact and_and_and_comm

/-! ## The lines for a table -/

theorem inScopes_inj {inner inner' : List String} :
    o.inScopes inner = o.inScopes inner' ↔ inner = inner' := by
  unfold inScopes
  split <;> simp

/-- The lines for a table tell what its rows declare. -/
theorem blockLines_eq_iff :
    o.blockLines t = o.blockLines t' ↔
      t.rows.map Instantiation.declared = t'.rows.map Instantiation.declared := by
  unfold blockLines probeLines
  rw [inScopes_inj, o.map_declared_eq_iff]
  constructor
  · intro h
    have hlength : t.rows.length = t'.rows.length := by
      have hall := congrArg List.length h
      simp only [List.length_append, List.length_map, List.length_singleton] at hall
      omega
    obtain ⟨hfront, hback⟩ := List.append_inj h (by simp [hlength])
    obtain ⟨hprobes, -⟩ := List.append_inj hback (by simp [hlength])
    exact ⟨List.append_cancel_right hfront, List.append_cancel_left hprobes⟩
  · rintro ⟨halias, hprobe⟩
    rw [halias, hprobe]

theorem blockLines_ne_nil : o.blockLines t ≠ [] := by
  unfold blockLines inScopes
  split <;> simp

/-! ## All lines -/

/-- Whether a line starts like one that includes a file. -/
def startsInclude (l : String) : Bool := l.toList.head? = some '#'

theorem startsInclude_append {s l : String} (h : s.toList ≠ []) :
    startsInclude (s ++ l) = startsInclude s := by
  obtain ⟨c, cs, hs⟩ := List.exists_cons_of_ne_nil h
  simp [startsInclude, hs]

theorem startsInclude_includeLine (path : String) : startsInclude (o.includeLine path) = true := by
  unfold includeLine
  simp only [String.append_assoc]
  cases o.includeStyle
  · rw [startsInclude_append (by decide)]
    decide
  · rw [startsInclude_append (by decide)]
    decide

theorem startsInclude_aliasLine (r : Instantiation) : startsInclude (o.aliasLine r) = false := by
  unfold aliasLine
  simp only [String.append_assoc]
  cases o.aliasStyle
  · rw [startsInclude_append (by decide)]
    decide
  · rw [startsInclude_append (by decide)]
    decide

theorem exists_openLine_eq (h : o.scopes ≠ []) : ∃ l, o.openLine = "namespace " ++ l := by
  obtain ⟨s, ss, hs⟩ := List.exists_cons_of_ne_nil h
  unfold openLine
  rw [hs]
  cases ss with
  | nil => exact ⟨_, String.append_assoc ..⟩
  | cons s' ss => simp [String.append_assoc]

theorem startsInclude_openLine (h : o.scopes ≠ []) : startsInclude o.openLine = false := by
  obtain ⟨l, hl⟩ := exists_openLine_eq h
  rw [hl, startsInclude_append (by decide)]
  decide

theorem includeLine_inj {p p' : String} : o.includeLine p = o.includeLine p' ↔ p = p' := by
  unfold includeLine
  cases o.includeStyle
  · rw [String.append_left_inj, String.append_right_inj]
  · rw [String.append_left_inj, String.append_right_inj]

/-- The lines behind the included files. -/
def tailLines (o : HeaderOptions) (paths : List String) (t : InstantiationTable) : List String :=
  if t.isEmpty then []
  else if paths.isEmpty then o.blockLines t
  else "" :: o.blockLines t

theorem lines_eq_append (o : HeaderOptions) (paths : List String) (t : InstantiationTable) :
    o.lines paths t = paths.map o.includeLine ++ o.tailLines paths t := by
  unfold lines tailLines
  cases t.isEmpty <;> cases paths <;> simp

/-- The lines for a table do not start like one that includes a file. -/
theorem startsInclude_of_head_blockLines (h : t.isEmpty = false) :
    ∀ l ∈ (o.blockLines t).head?, startsInclude l = false := by
  unfold blockLines inScopes
  by_cases hs : o.scopes = []
  · rw [if_pos (by simp [hs])]
    cases hr : t.rows with
    | nil => simp [InstantiationTable.isEmpty, hr] at h
    | cons r rs => simp [startsInclude_aliasLine]
  · rw [if_neg (by simp [hs])]
    simpa using startsInclude_openLine hs

theorem startsInclude_of_head_tailLines :
    ∀ l ∈ (o.tailLines paths t).head?, startsInclude l = false := by
  unfold tailLines
  split
  · simp
  · rename_i ht
    split
    · exact startsInclude_of_head_blockLines (by simpa using ht)
    · simp [startsInclude]

theorem tailLines_eq_nil_iff :
    o.tailLines paths t = [] ↔ t.rows.map Instantiation.declared = [] := by
  have hempty : t.rows.map Instantiation.declared = [] ↔ t.isEmpty = true := by
    simp [InstantiationTable.isEmpty]
  rw [hempty]
  unfold tailLines
  cases t.isEmpty <;> cases paths <;> simp [blockLines_ne_nil]

/-- Behind the same files the lines tell what the rows declare. -/
theorem tailLines_inj :
    o.tailLines paths t = o.tailLines paths t' ↔
      t.rows.map Instantiation.declared = t'.rows.map Instantiation.declared := by
  by_cases hd : t.rows.map Instantiation.declared = []
  · rw [hd, tailLines_eq_nil_iff.mpr hd, eq_comm, tailLines_eq_nil_iff, eq_comm]
  by_cases hd' : t'.rows.map Instantiation.declared = []
  · rw [hd', tailLines_eq_nil_iff.mpr hd', tailLines_eq_nil_iff]
  have hempty : ¬ t.isEmpty = true := by simpa [InstantiationTable.isEmpty] using hd
  have hempty' : ¬ t'.isEmpty = true := by simpa [InstantiationTable.isEmpty] using hd'
  rw [tailLines, tailLines, if_neg hempty, if_neg hempty', ← blockLines_eq_iff (o := o)]
  split
  · rfl
  · exact List.cons_inj_right _

/-- The lines of a header tell the included files and what the rows declare. -/
theorem lines_eq_iff :
    o.lines paths t = o.lines paths' t' ↔
      paths = paths' ∧ t.rows.map Instantiation.declared = t'.rows.map Instantiation.declared := by
  have hinclude (ps : List String) : ∀ l ∈ ps.map o.includeLine, startsInclude l = true := by
    simpa using fun p _ => startsInclude_includeLine p
  have hpaths : paths.map o.includeLine = paths'.map o.includeLine ↔ paths = paths' :=
    (List.map_injective_iff.mpr fun _ _ => includeLine_inj.mp).eq_iff
  rw [lines_eq_append, lines_eq_append,
    append_inj_of_head startsInclude (hinclude paths) (hinclude paths')
      startsInclude_of_head_tailLines startsInclude_of_head_tailLines, hpaths]
  refine and_congr_right ?_
  rintro rfl
  exact tailLines_inj

/-! ## The text -/

/-- Two tables that pass make headers, and these are the same text exactly when they include the
same files and declare the same types under the same aliases, all in the same order. -/
theorem generate_determines_inputs (o : HeaderOptions) {paths paths' : List String}
    {t t' : InstantiationTable} (hc : o.check t = .ok ()) (hc' : o.check t' = .ok ())
    (hp : ∀ p ∈ paths, OneLine p) (hp' : ∀ p ∈ paths', OneLine p)
    (ht : ∀ r ∈ t.rows, r.SingleLine) (ht' : ∀ r ∈ t'.rows, r.SingleLine) :
    ∃ s s', o.generate paths t = .ok s ∧ o.generate paths' t' = .ok s' ∧
      (s = s' ↔ paths = paths' ∧
        t.rows.map Instantiation.declared = t'.rows.map Instantiation.declared) := by
  refine ⟨_, _, (o.generate_eq_ok_iff paths t _).mpr ⟨hc, rfl⟩,
    (o.generate_eq_ok_iff paths' t' _).mpr ⟨hc', rfl⟩, ?_⟩
  rw [unlines_inj (oneLine_of_mem_lines hc hp ht) (oneLine_of_mem_lines hc' hp' ht'), lines_eq_iff]

/-- Rows that are written differently may declare the same; a header does not tell them apart. -/
theorem generate_eq_of_padded_rows :
    let t : InstantiationTable := ⟨[⟨" Box", ["int", "vec<T> "], "Pair"⟩]⟩
    let t' : InstantiationTable := ⟨[⟨"Box", ["int, vec<T>"], "Pair"⟩]⟩
    check {} t = .ok () ∧ check {} t' = .ok () ∧ (∀ p ∈ ["a>.h"], OneLine p) ∧
      (∀ r ∈ t.rows, r.SingleLine) ∧ (∀ r ∈ t'.rows, r.SingleLine) ∧
        ∃ s, generate {} ["a>.h"] t = .ok s ∧ generate {} ["a>.h"] t' = .ok s := by
  intro t t'
  have hc : check {} t = .ok () := by decide +kernel
  have hc' : check {} t' = .ok () := by decide +kernel
  have hp : ∀ p ∈ ["a>.h"], OneLine p := by decide +kernel
  have ht : ∀ r ∈ t.rows, r.SingleLine := by
    simpa [t] using ⟨by decide +kernel, by decide +kernel⟩
  have ht' : ∀ r ∈ t'.rows, r.SingleLine := by
    simpa [t'] using ⟨by decide +kernel, by decide +kernel⟩
  obtain ⟨s, s', hs, hs', hiff⟩ := generate_determines_inputs {} hc hc' hp hp ht ht'
  have hdeclared : t.rows.map Instantiation.declared = t'.rows.map Instantiation.declared := by
    decide +kernel
  have hsame : s = s' := hiff.mpr ⟨rfl, hdeclared⟩
  exact ⟨hc, hc', hp, ht, ht', s, hs, hsame ▸ hs'⟩

end HeaderOptions

end Exposure
