import Mathlib.Algebra.Order.Ring.Nat
import Exposure.Proofs.Instantiation.Recovery

/-!
# One line for each item

A line of a header that is not blank includes a file, declares an alias, probes a type or belongs to
the frame around them.  A header has one line for each included file, one alias and one probe for
each row and the frame, and nothing else, exactly when no included path and no type text has a line
break: an item with a break makes at least two lines that are not blank.
-/

namespace Exposure

variable {s l : String}

/-! ## The lines of a text -/

/-- What stands between the line breaks of a text. -/
def linesOf (s : String) : List String := (s.toList.splitOn '\n').map String.ofList

theorem linesOf_append (s l : String) : linesOf (s ++ "\n" ++ l) = linesOf s ++ linesOf l := by
  have hsplit := List.splitOn_append_cons_self (a := '\n') s.toList l.toList
  simp only [linesOf, String.toList_append, List.append_assoc]
  rw [← List.map_append, ← hsplit]
  rfl

theorem linesOf_eq_singleton (h : OneLine s) : linesOf s = [s] := by
  rw [linesOf, List.splitOn_eq_singleton h, List.map_singleton, String.ofList_toList]

theorem linesOf_unlines (ls : List String) :
    linesOf (HeaderOptions.unlines ls) = ls.flatMap linesOf ++ [""] := by
  induction ls with
  | nil => rfl
  | cons l ls ih =>
      have hcons : HeaderOptions.unlines (l :: ls) = l ++ "\n" ++ HeaderOptions.unlines ls := by
        rw [← String.toList_inj, HeaderOptions.toList_unlines_cons]
        simp
      rw [hcons, linesOf_append, ih, List.flatMap_cons, List.append_assoc]

/-- The number of lines of a text that are not blank. -/
def inkedLines (s : String) : Nat := (linesOf s).countP (! Text.blank ·)

theorem blank_append (s l : String) : Text.blank (s ++ l) = (Text.blank s && Text.blank l) := by
  simp [Text.blank]

theorem all_splitOn_isBlank (cs : List Char) :
    (cs.splitOn '\n').all (·.all Text.isBlank) = cs.all Text.isBlank := by
  induction cs with
  | nil => rfl
  | cons c cs ih =>
      rw [List.splitOn_cons_eq_if_modifyHead, List.all_cons, ← ih]
      by_cases hc : c = '\n'
      · subst hc
        rfl
      · obtain ⟨p, ps, hps⟩ := List.exists_cons_of_ne_nil (List.splitOn_ne_nil '\n' cs)
        rw [if_neg (by simpa using hc), hps]
        simp [Bool.and_assoc]

/-- A text that is not blank has a line that is not. -/
theorem one_le_inkedLines (h : Text.blank s = false) : 1 ≤ inkedLines s := by
  rw [inkedLines, Nat.one_le_iff_ne_zero, Ne, List.countP_eq_zero]
  intro hall
  rw [Text.blank, ← all_splitOn_isBlank, List.all_eq_false] at h
  obtain ⟨p, hp, hne⟩ := h
  refine hall (String.ofList p) (List.mem_map_of_mem hp) ?_
  simpa [Text.blank] using hne

theorem inkedLines_append (s l : String) :
    inkedLines (s ++ "\n" ++ l) = inkedLines s + inkedLines l := by
  rw [inkedLines, linesOf_append, List.countP_append]
  rfl

/-- A text with a break between two parts that are not blank has at least two lines that are not. -/
theorem two_le_inkedLines {front back : String} (hfront : Text.blank front = false)
    (hback : Text.blank back = false) (h : ¬ OneLine s) : 2 ≤ inkedLines (front ++ s ++ back) := by
  obtain ⟨cs, ds, hs⟩ := List.append_of_mem (not_not.mp h)
  have hcut : front ++ s ++ back =
      (front ++ String.ofList cs) ++ "\n" ++ (String.ofList ds ++ back) := by
    rw [← String.toList_inj]
    simp [hs]
  have hleft : 1 ≤ inkedLines (front ++ String.ofList cs) :=
    one_le_inkedLines (by rw [blank_append, hfront, Bool.false_and])
  have hright : 1 ≤ inkedLines (String.ofList ds ++ back) :=
    one_le_inkedLines (by rw [blank_append, hback, Bool.and_false])
  rw [hcut, inkedLines_append]
  omega

theorem inkedLines_unlines (ls : List String) :
    inkedLines (HeaderOptions.unlines ls) = (ls.map inkedLines).sum := by
  rw [inkedLines, linesOf_unlines, List.countP_append, List.countP_flatMap]
  rfl

/-! ## The kinds of lines -/

/-- What a line of a header that is not blank is. -/
inductive LineKind where
  | inclusion
  | declaration
  | probe
  | frame
deriving DecidableEq, Repr

/-- Whether a line starts with a text. -/
def startsWith (s l : String) : Bool := s.toList.isPrefixOf l.toList

/-- The kind of a line, by how it starts; a blank line has none. -/
def LineKind.of? (l : String) : Option LineKind :=
  if Text.blank l then none
  else if startsWith "#include" l then some .inclusion
  else if startsWith "    typedef " l || startsWith "    using " l then some .declaration
  else if startsWith "        (void) sizeof(" l then some .probe
  else some .frame

theorem startsWith_iff : startsWith s l = true ↔ s.toList <+: l.toList := List.isPrefixOf_iff_prefix

/-- Whether a line starts with a text is seen from a longer text that the line starts with. -/
theorem startsWith_append {p : String} (h : startsWith s p = true → startsWith p s = true)
    (l : String) : startsWith p (s ++ l) = startsWith p s := by
  rw [startsWith_iff, startsWith_iff] at h
  rw [Bool.eq_iff_iff, startsWith_iff, startsWith_iff, String.toList_append]
  constructor
  · intro hp
    exact (List.prefix_or_prefix_of_prefix hp (List.prefix_append _ _)).elim id h
  · intro hp
    exact hp.trans (List.prefix_append _ _)

/-- The texts by which lines are told apart. -/
def LineKind.starts : List String :=
  ["#include", "    typedef ", "    using ", "        (void) sizeof("]

/-- What a line starts with gives its kind, if it is long enough to tell the kinds apart. -/
theorem LineKind.of?_append {k : LineKind} (hs : Text.blank s = false)
    (h : ∀ p ∈ starts, startsWith s p = true → startsWith p s = true) (hk : of? s = some k)
    (l : String) : of? (s ++ l) = some k := by
  simp only [starts, List.forall_mem_cons] at h
  obtain ⟨hinclusion, htypedef, husing, hprobe, -⟩ := h
  rw [← hk, of?, of?, blank_append, hs, Bool.false_and, startsWith_append hinclusion,
    startsWith_append htypedef, startsWith_append husing, startsWith_append hprobe]

theorem LineKind.of?_eq_none_iff (l : String) : of? l = none ↔ Text.blank l = true := by
  unfold of?
  cases Text.blank l with
  | true => simp
  | false =>
      simp only [Bool.false_eq_true, if_false, iff_false]
      split_ifs <;> simp

/-- Every line that is not blank has one of the kinds. -/
theorem LineKind.countP_not_blank (ls : List String) :
    ls.countP (! Text.blank ·) =
      (ls.filter (of? · = some .inclusion)).length +
        (ls.filter (of? · = some .declaration)).length +
        (ls.filter (of? · = some .probe)).length + (ls.filter (of? · = some .frame)).length := by
  induction ls with
  | nil => rfl
  | cons l ls ih =>
      rw [List.countP_cons, ih]
      have hnone := of?_eq_none_iff l
      rcases hk : of? l with _ | _ | _ | _ | _ <;> rw [hk] at hnone
      · simp_all
      all_goals simp_all; omega

namespace HeaderOptions

variable {o : HeaderOptions} {paths : List String} {t : InstantiationTable}

theorem kind_includeLine (path : String) :
    LineKind.of? (o.includeLine path) = some .inclusion := by
  unfold includeLine
  simp only [String.append_assoc]
  cases o.includeStyle
  · exact LineKind.of?_append (by decide) (by decide) (by decide) _
  · exact LineKind.of?_append (by decide) (by decide) (by decide) _

theorem kind_aliasLine (r : Instantiation) :
    LineKind.of? (o.aliasLine r) = some .declaration := by
  unfold aliasLine
  simp only [String.append_assoc]
  cases o.aliasStyle
  · exact LineKind.of?_append (by decide) (by decide) (by decide) _
  · exact LineKind.of?_append (by decide) (by decide) (by decide) _

theorem kind_probeLine (r : Instantiation) : LineKind.of? (probeLine r) = some .probe := by
  unfold probeLine
  rw [String.append_assoc]
  exact LineKind.of?_append (by decide) (by decide) (by decide) _

theorem kind_openLine (h : o.scopes ≠ []) : LineKind.of? o.openLine = some .frame := by
  obtain ⟨l, hl⟩ := exists_openLine_eq h
  rw [hl]
  exact LineKind.of?_append (by decide) (by decide) (by decide) _

theorem kind_closeLine (h : o.scopes ≠ []) : LineKind.of? o.closeLine = some .frame := by
  obtain ⟨s, ss, hs⟩ := List.exists_cons_of_ne_nil h
  rw [closeLine, hs]
  cases ss with
  | nil =>
      rw [List.map_singleton, String.intercalate_singleton]
      decide
  | cons s' ss =>
      rw [List.map_cons, List.map_cons, String.intercalate_cons_cons, String.append_assoc]
      exact LineKind.of?_append (by decide) (by decide) (by decide) _

/-- The line that opens the function with the probes. -/
def probeOpenLine (o : HeaderOptions) : String := "    inline void " ++ o.probeFunction ++ "() \x7b"

theorem probeLines_eq :
    o.probeLines t = o.probeOpenLine :: (t.rows.map probeLine ++ ["    \x7d"]) := rfl

theorem kind_probeOpenLine : LineKind.of? o.probeOpenLine = some .frame := by
  unfold probeOpenLine
  rw [String.append_assoc]
  exact LineKind.of?_append (by decide) (by decide) (by decide) _

theorem kind_probeCloseLine : LineKind.of? "    \x7d" = some .frame := by decide

theorem kind_empty : LineKind.of? "" = none := by decide

/-! ## The items of a header -/

/-- The lines around the items for a table: those that open and close the namespaces, if there are
any, and the function with the probes. -/
def frameLines (o : HeaderOptions) (t : InstantiationTable) : List String :=
  if t.isEmpty then []
  else if o.scopes.isEmpty then [o.probeOpenLine, "    \x7d"]
  else [o.openLine, o.probeOpenLine, "    \x7d", o.closeLine]

/-- The lines of each kind that a header has to have: one for each item. -/
def items (o : HeaderOptions) (paths : List String) (t : InstantiationTable) :
    LineKind → List String
  | .inclusion => paths.map o.includeLine
  | .declaration => t.rows.map o.aliasLine
  | .probe => t.rows.map probeLine
  | .frame => o.frameLines t

/-- A text has one line for each item of a header, in their order, and no others that are not
blank. -/
def Itemized (o : HeaderOptions) (paths : List String) (t : InstantiationTable) (s : String) :
    Prop :=
  ∀ k, (linesOf s).filter (LineKind.of? · = some k) = o.items paths t k

theorem filter_map_of_kind {α : Type} {f : α → String} {k' : LineKind}
    (h : ∀ x, LineKind.of? (f x) = some k') (k : LineKind) (xs : List α) :
    (xs.map f).filter (LineKind.of? · = some k) = if k' = k then xs.map f else [] := by
  by_cases hk : k' = k
  · rw [if_pos hk, List.filter_eq_self]
    simp [h, hk]
  · rw [if_neg hk, List.filter_eq_nil_iff]
    simp [h, hk]

/-- The lines for a table, behind an empty one or not, are the items of its rows and the frame. -/
theorem filter_blockLines (o : HeaderOptions) (h : t.isEmpty = false) (k : LineKind) :
    (o.blockLines t).filter (LineKind.of? · = some k) = o.items [] t k := by
  by_cases hscopes : o.scopes = []
  · rw [blockLines, inScopes, if_pos (by simp [hscopes]), probeLines_eq]
    simp only [List.filter_append, filter_map_of_kind kind_aliasLine,
      filter_map_of_kind kind_probeLine, List.filter_cons, List.filter_nil, kind_empty,
      kind_probeOpenLine, kind_probeCloseLine]
    cases k <;> simp [items, frameLines, h, hscopes]
  · rw [blockLines, inScopes, if_neg (by simp [hscopes]), probeLines_eq]
    simp only [List.filter_append, filter_map_of_kind kind_aliasLine,
      filter_map_of_kind kind_probeLine, List.filter_cons, List.filter_nil, kind_empty,
      kind_probeOpenLine, kind_probeCloseLine, kind_openLine hscopes, kind_closeLine hscopes]
    cases k <;> simp [items, frameLines, h, hscopes]

/-- Before they are written, the lines of a header are its items. -/
theorem filter_lines (o : HeaderOptions) (paths : List String) (t : InstantiationTable)
    (k : LineKind) :
    (o.lines paths t).filter (LineKind.of? · = some k) = o.items paths t k := by
  have htail : (o.tailLines paths t).filter (LineKind.of? · = some k) = o.items [] t k := by
    unfold tailLines
    split
    · next ht =>
      have hrows : t.rows = [] := by simpa [InstantiationTable.isEmpty] using ht
      cases k <;> simp [items, frameLines, ht, hrows]
    · next ht =>
      have hblock := o.filter_blockLines (eq_false_of_ne_true ht) k
      split
      · exact hblock
      · rw [List.filter_cons_of_neg (by simp [kind_empty]), hblock]
  rw [lines_eq_append, List.filter_append, filter_map_of_kind kind_includeLine, htail]
  cases k <;> simp [items]

/-! ## Breaks inside of items -/

theorem countP_le_sum_inkedLines (ls : List String) :
    ls.countP (! Text.blank ·) ≤ (ls.map inkedLines).sum := by
  induction ls with
  | nil => exact Nat.zero_le 0
  | cons l ls ih =>
      rw [List.countP_cons, List.map_cons, List.sum_cons]
      cases hl : Text.blank l with
      | true => simpa using Nat.le_add_left_of_le ih
      | false =>
          have hone := one_le_inkedLines hl
          simp only [Bool.not_false, if_true]
          omega

/-- Lines that are no more together than by themselves have no break between parts that are not
blank. -/
theorem inkedLines_le_one {ls : List String}
    (h : (ls.map inkedLines).sum ≤ ls.countP (! Text.blank ·)) : ∀ l ∈ ls, inkedLines l ≤ 1 := by
  induction ls with
  | nil => exact List.forall_mem_nil _
  | cons l ls ih =>
      have hrest := countP_le_sum_inkedLines ls
      rw [List.countP_cons, List.map_cons, List.sum_cons] at h
      rw [List.forall_mem_cons]
      cases hl : Text.blank l with
      | true =>
          simp only [hl, Bool.not_true, Bool.false_eq_true, if_false] at h
          exact ⟨by omega, ih (by omega)⟩
      | false =>
          have hone := one_le_inkedLines hl
          simp only [hl, Bool.not_false, if_true] at h
          exact ⟨by omega, ih (by omega)⟩

theorem Itemized.inkedLines_eq (h : o.Itemized paths t s) :
    inkedLines s = (o.lines paths t).countP (! Text.blank ·) := by
  rw [inkedLines, LineKind.countP_not_blank, LineKind.countP_not_blank]
  simp only [h _, o.filter_lines paths t]

theorem oneLine_of_inkedLines_includeLine {path : String}
    (h : inkedLines (o.includeLine path) ≤ 1) : OneLine path := by
  by_contra hbreak
  have htwo : 2 ≤ inkedLines (o.includeLine path) := by
    unfold includeLine
    cases o.includeStyle
    · exact two_le_inkedLines (by decide) (by decide) hbreak
    · exact two_le_inkedLines (by decide) (by decide) hbreak
  omega

theorem oneLine_of_inkedLines_probeLine {r : Instantiation}
    (h : inkedLines (probeLine r) ≤ 1) : OneLine r.typeText := by
  by_contra hbreak
  have htwo : 2 ≤ inkedLines (probeLine r) := two_le_inkedLines (by decide) (by decide) hbreak
  omega

/-- A header with one line for each item has no break inside of an item. -/
theorem Itemized.oneLine (h : o.Itemized paths t (unlines (o.lines paths t))) :
    (∀ p ∈ paths, OneLine p) ∧ ∀ r ∈ t.rows, OneLine r.typeText := by
  have hle : ∀ l ∈ o.lines paths t, inkedLines l ≤ 1 := by
    refine inkedLines_le_one (Nat.le_of_eq ?_)
    rw [← inkedLines_unlines, h.inkedLines_eq]
  have hmem : ∀ k, ∀ l ∈ o.items paths t k, l ∈ o.lines paths t := by
    intro k l hl
    rw [← o.filter_lines paths t k] at hl
    exact List.mem_of_mem_filter hl
  constructor
  · intro p hp
    exact oneLine_of_inkedLines_includeLine (hle _ (hmem .inclusion _ (List.mem_map_of_mem hp)))
  · intro r hr
    exact oneLine_of_inkedLines_probeLine (hle _ (hmem .probe _ (List.mem_map_of_mem hr)))

/-- Lines without breaks are the lines of the text that they make. -/
theorem itemized_of_forall_oneLine (h : ∀ l ∈ o.lines paths t, OneLine l) :
    o.Itemized paths t (unlines (o.lines paths t)) := by
  intro k
  have hlines : (o.lines paths t).flatMap linesOf = o.lines paths t := by
    rw [List.flatMap_congr fun l hl => linesOf_eq_singleton (h l hl), List.flatMap_singleton']
  rw [linesOf_unlines, hlines, List.filter_append, o.filter_lines paths t]
  simp [kind_empty]

/-- A table that passes makes a header, and this has one line for each included file, one alias and
one probe for each row and the frame around them, all in order, and nothing else but blank lines,
exactly when no path and no type text has a line break. -/
theorem generate_itemized_iff (o : HeaderOptions) (paths : List String) {t : InstantiationTable}
    (hc : o.check t = .ok ()) :
    ∃ s, o.generate paths t = .ok s ∧
      (o.Itemized paths t s ↔
        (∀ p ∈ paths, OneLine p) ∧ ∀ r ∈ t.rows, OneLine r.typeText) := by
  refine ⟨_, (o.generate_eq_ok_iff paths t _).mpr ⟨hc, rfl⟩, fun h => h.oneLine, ?_⟩
  rintro ⟨hpaths, htypes⟩
  exact itemized_of_forall_oneLine (oneLine_of_mem_lines_of_typeText hc hpaths htypes)

/-- A break at the end of a template's name is trimmed away. -/
theorem generate_itemized_of_trimmed_break :
    let t : InstantiationTable := ⟨[⟨"Box\n", ["int"], "IntBox"⟩]⟩
    check {} t = .ok () ∧ ∃ s, generate {} ["box>.h"] t = .ok s ∧ Itemized {} ["box>.h"] t s := by
  intro t
  have hc : check {} t = .ok () := by decide +kernel
  obtain ⟨s, hs, hiff⟩ := generate_itemized_iff {} ["box>.h"] hc
  exact ⟨hc, s, hs, hiff.mpr ⟨by decide +kernel, by decide +kernel⟩⟩

/-- A path with a break makes a header with one more line that includes a file. -/
theorem generate_not_itemized_of_break :
    let paths := ["a.h>\n#include <b.h"]
    ∃ s, check {} ⟨[]⟩ = .ok () ∧ generate {} paths ⟨[]⟩ = .ok s ∧
      linesOf s = ["#include <a.h>", "#include <b.h>", ""] ∧ ¬ Itemized {} paths ⟨[]⟩ s := by
  intro paths
  refine ⟨"#include <a.h>\n#include <b.h>\n", by decide +kernel, by decide +kernel,
    by decide +kernel, fun h => ?_⟩
  have hcount := congrArg List.length (h .inclusion)
  revert hcount
  decide +kernel

end HeaderOptions

end Exposure
