import Exposure.Glob.Expression
import Exposure.Proofs.Glob.Pieces

/-!
# What the expression of a glob finds

The expression of a glob is read item by item as it was written: one item for each character of the
glob, between the two anchors.  Every item reads the pieces that its character stands for, and the
anchors leave nothing before or behind them.  So the texts that the glob matches, the texts that its
expression is found in and the texts that are made of its pieces are the same.
-/

namespace Exposure

variable {p c : Char} {ps cs : List Char} {before piece after : List Char}

namespace Regex

variable {item : Item} {items done : List Item}

/-! ## Text -/

theorem readItems_escape (done : List Item) (c : Char) (cs : List Char) :
    readItems done (escape c ++ cs) = readItems (.literal c :: done) cs := by
  rw [escape]
  split_ifs with h
  · rw [List.cons_append, List.singleton_append, readItems, if_pos h]
  · have hne (m : Char) (hm : isMeta m = true) : c ≠ m := fun hc => h (hc ▸ hm)
    rw [List.singleton_append, readItems, if_neg h]
    · exact fun _ _ hc _ => hne '\\' (by decide) hc
    · exact hne '^' (by decide)
    · exact hne '$' (by decide)
    · exact hne '.' (by decide)
    · exact fun _ _ _ hc => hne '*' (by decide) hc

/-! ## Meaning -/

theorem reads_any_iff :
    Reads (.any :: items) before piece after ↔
      ∃ c rest, piece = c :: rest ∧ c ≠ '\n' ∧ Reads items (before ++ [c]) rest after := by
  constructor
  · rintro (_ | _ | _ | ⟨hc, h⟩)
    exact ⟨_, _, rfl, hc, h⟩
  · rintro ⟨c, rest, rfl, hc, h⟩
    exact .any hc h

theorem reads_literal_iff :
    Reads (.literal c :: items) before piece after ↔
      ∃ rest, piece = c :: rest ∧ Reads items (before ++ [c]) rest after := by
  constructor
  · rintro (_ | _ | _ | _ | h)
    exact ⟨_, rfl, h⟩
  · rintro ⟨rest, rfl, h⟩
    exact .literal h

/-- Any number of characters of a line are a run of them. -/
theorem reads_repeated_any_iff :
    Reads (.repeated .any :: items) before piece after ↔
      ∃ run rest, piece = run ++ rest ∧ (∀ c ∈ run, c ≠ '\n') ∧
        Reads items (before ++ run) rest after := by
  constructor
  · intro h
    -- on the piece, since the repetition itself becomes longer when it is opened
    induction piece generalizing before with
    | nil =>
        rcases h with _ | _ | _ | _ | _ | h | h
        · exact ⟨[], [], rfl, by simp, by rwa [List.append_nil]⟩
        · obtain ⟨c, rest, heq, -⟩ := reads_any_iff.mp h
          cases heq
    | cons c piece ih =>
        rcases h with _ | _ | _ | _ | _ | h | h
        · exact ⟨[], c :: piece, rfl, by simp, by rwa [List.append_nil]⟩
        · obtain ⟨b, rest, heq, hb, h⟩ := reads_any_iff.mp h
          obtain ⟨rfl, rfl⟩ := List.cons.inj heq
          obtain ⟨run, rest, rfl, hrun, h⟩ := ih h
          refine ⟨c :: run, rest, rfl, List.forall_mem_cons.mpr ⟨hb, hrun⟩, ?_⟩
          rwa [List.append_cons]
  · rintro ⟨run, rest, rfl, hrun, h⟩
    induction run generalizing before with
    | nil => exact .repeatedNone (by rwa [List.append_nil] at h)
    | cons c run ih =>
        rw [List.forall_mem_cons] at hrun
        refine .repeatedMore (.any hrun.1 (ih hrun.2 ?_))
        rwa [← List.append_cons]

theorem reads_start_iff :
    Reads (.start :: items) before piece after ↔ before = [] ∧ Reads items [] piece after := by
  constructor
  · rintro (_ | h)
    exact ⟨rfl, h⟩
  · rintro ⟨rfl, h⟩
    exact .start h

theorem reads_stop_iff : Reads [.stop] before piece after ↔ piece = [] ∧ after = [] := by
  constructor
  · rintro (_ | _ | h)
    exact ⟨rfl, rfl⟩
  · rintro ⟨rfl, rfl⟩
    exact .stop .nil

end Regex

namespace Glob

open Regex

/-- The item of an expression for a character of a glob. -/
def itemOf (p : Char) : Item :=
  if p = '*' then .repeated .any else if p = '?' then .any else .literal p

theorem readItems_expressionPart (done : List Item) (p : Char) (cs : List Char) :
    readItems done (expressionPart p ++ cs) = readItems (itemOf p :: done) cs := by
  rw [expressionPart, itemOf]
  split_ifs
  · rfl
  · rfl
  · exact readItems_escape done p cs

theorem readItems_flatMap_expressionPart (done : List Item) (ps cs : List Char) :
    readItems done (ps.flatMap expressionPart ++ cs) =
      readItems ((ps.map itemOf).reverse ++ done) cs := by
  induction ps generalizing done with
  | nil => rfl
  | cons p ps ih =>
      rw [List.flatMap_cons, List.append_assoc, readItems_expressionPart, ih, List.map_cons,
        List.reverse_cons, List.append_assoc, List.singleton_append]

/-- The expression of a glob is read as one item for each character, between the anchors. -/
theorem items?_expression (g : Glob) :
    items? g.expression = some (.start :: g.source.toList.map itemOf ++ [.stop]) := by
  rw [items?, expression, String.toList_ofList, List.cons_append]
  change readItems [.start] (g.source.toList.flatMap expressionPart ++ ['$']) = _
  rw [readItems_flatMap_expressionPart]
  change some (Item.stop :: _).reverse = _
  simp

/-- A dot is escaped, since it would stand for any character. -/
example : expression ⟨"a.b<*>?"⟩ = "^a\\.b<.*>.$" := by decide +kernel

/-- An item reads what its character stands for. -/
theorem reads_itemOf_iff (p : Char) {items : List Item} :
    Reads (itemOf p :: items) before piece after ↔
      ∃ first rest, StandsFor p first ∧ Reads items (before ++ first) rest after ∧
        piece = first ++ rest := by
  rw [itemOf]
  split_ifs with hstar hquestion
  · subst hstar
    rw [reads_repeated_any_iff]
    refine exists₂_congr fun run rest => ?_
    rw [standsFor_star_iff, and_comm (a := piece = _), and_assoc]
  · subst hquestion
    rw [reads_any_iff]
    constructor
    · rintro ⟨c, rest, rfl, hc, h⟩
      exact ⟨[c], rest, .one hc, h, rfl⟩
    · rintro ⟨first, rest, hfirst, h, rfl⟩
      obtain ⟨c, rfl, hc⟩ := standsFor_question_iff.mp hfirst
      exact ⟨c, rest, rfl, hc, h⟩
  · have hp := isWildcard_eq_false_iff.mpr ⟨hstar, hquestion⟩
    rw [reads_literal_iff]
    constructor
    · rintro ⟨rest, rfl, h⟩
      exact ⟨[p], rest, .itself hp, h, rfl⟩
    · rintro ⟨first, rest, hfirst, h, rfl⟩
      obtain rfl := (standsFor_iff_of_not_wildcard hp).mp hfirst
      exact ⟨rest, rfl, h⟩

/-- The items of a glob and the end of the text read what the glob spells, with nothing behind it. -/
theorem reads_map_itemOf_stop_iff (ps : List Char) :
    Reads (ps.map itemOf ++ [.stop]) before piece after ↔ Spells ps piece ∧ after = [] := by
  induction ps generalizing before piece with
  | nil => rw [List.map_nil, List.nil_append, reads_stop_iff, spells_nil]
  | cons p ps ih =>
      rw [List.map_cons, List.cons_append, reads_itemOf_iff, spells_cons]
      simp only [ih]
      constructor
      · rintro ⟨first, rest, hp, ⟨hps, hafter⟩, heq⟩
        exact ⟨⟨first, rest, hp, hps, heq⟩, hafter⟩
      · rintro ⟨⟨first, rest, hp, hps, heq⟩, hafter⟩
        exact ⟨first, rest, hp, ⟨hps, hafter⟩, heq⟩

/-- A glob matches the texts in which its expression is found. -/
theorem isMatch_iff_finds (g : Glob) (text : String) :
    g.isMatch text = true ↔ Regex.Finds g.expression text := by
  rw [isMatch_iff, Finds, items?_expression]
  simp only [Option.some.injEq, exists_eq_left', List.cons_append, reads_start_iff,
    reads_map_itemOf_stop_iff]
  constructor
  · intro h
    exact ⟨[], text.toList, [], by simp, rfl, h, rfl⟩
  · rintro ⟨before, piece, after, heq, rfl, h, rfl⟩
    rw [List.nil_append, List.append_nil] at heq
    rwa [heq]

/-- A glob that is accepted matches exactly the texts that are made of one piece for each of its
characters, and in these its expression is found. -/
theorem isMatch_iff_exists_pieces {s : String} {g : Glob} (h : ofString s = .ok g)
    (text : String) :
    (g.isMatch text = true ↔
      ∃ pieces, List.Forall₂ StandsFor s.toList pieces ∧ text.toList = pieces.flatten) ∧
    (Regex.Finds g.expression text ↔
      ∃ pieces, List.Forall₂ StandsFor s.toList pieces ∧ text.toList = pieces.flatten) := by
  have hpieces : g.isMatch text = true ↔ Spells s.toList text.toList := by
    rw [isMatch_iff, source_of_ofString h]
  exact ⟨hpieces, (g.isMatch_iff_finds text).symm.trans hpieces⟩

/-- Two stars around a question mark and a bracket, on a name over which they can be spread in many
ways. -/
theorem isMatch_iff_exists_pieces_of_stars :
    let g : Glob := ⟨"*?*::b<*"⟩
    ofString "*?*::b<*" = .ok g ∧ g.isMatch "a::é::b<b<" = true ∧
      Regex.Finds g.expression "a::é::b<b<" ∧
      ∃ pieces, List.Forall₂ StandsFor "*?*::b<*".toList pieces ∧
        "a::é::b<b<".toList = pieces.flatten := by
  intro g
  have hg : ofString "*?*::b<*" = .ok g := by decide +kernel
  have hmatch : g.isMatch "a::é::b<b<" = true := by decide +kernel
  obtain ⟨hmatches, hfinds⟩ := isMatch_iff_exists_pieces hg "a::é::b<b<"
  have hpieces := hmatches.mp hmatch
  exact ⟨hg, hmatch, hfinds.mpr hpieces, hpieces⟩

/-- A star does not go beyond the end of a line, but a line end in the glob stands for itself. -/
example : isMatch ⟨"*"⟩ "a\nb" = false ∧ isMatch ⟨"*\n*"⟩ "a\nb" = true := by decide +kernel

end Glob

end Exposure
