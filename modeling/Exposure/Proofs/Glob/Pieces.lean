import Mathlib.Data.List.Forall2
import Mathlib.Data.List.Infix
import Exposure.Glob

/-!
# The pieces of a matched text

A glob says what a text is made of: one piece for each of its characters, in their order.  Where the
pieces end is not told, and with two stars there are many ways to cut.  Matching does not try them
one after the other; it keeps for every rest of the glob whether some way to cut exists.  This file
shows that a row of answers is right for the empty text, stays right when a character is put in
front of the text, and so is right for every text.
-/

namespace Exposure.Glob

variable {p c : Char} {ps cs : List Char} {old : List Bool}

/-- The pieces of a text that a character of a glob may stand for. -/
inductive StandsFor : Char → List Char → Prop where
  /-- A star stands for any run of characters of one line. -/
  | run {piece : List Char} (h : ∀ c ∈ piece, c ≠ '\n') : StandsFor '*' piece
  /-- A question mark stands for one character of a line. -/
  | one {c : Char} (h : c ≠ '\n') : StandsFor '?' [c]
  /-- Every other character stands for itself. -/
  | itself {p : Char} (h : isWildcard p = false) : StandsFor p [p]

/-- A text is a row of pieces, one for each character of a glob. -/
def Spells (ps cs : List Char) : Prop :=
  ∃ pieces, List.Forall₂ StandsFor ps pieces ∧ cs = pieces.flatten

theorem inLine_iff : inLine c = true ↔ c ≠ '\n' := by
  simp [inLine]

theorem isWildcard_eq_false_iff : isWildcard p = false ↔ p ≠ '*' ∧ p ≠ '?' := by
  simp [isWildcard]

/-! ## What each character stands for -/

theorem standsFor_star_iff : StandsFor '*' cs ↔ ∀ c ∈ cs, c ≠ '\n' := by
  constructor
  · rintro (h | _ | h)
    · exact h
    · exact absurd rfl (isWildcard_eq_false_iff.mp h).1
  · exact .run

theorem standsFor_question_iff : StandsFor '?' cs ↔ ∃ c, cs = [c] ∧ c ≠ '\n' := by
  constructor
  · rintro (_ | h | h)
    · exact ⟨_, rfl, h⟩
    · exact absurd rfl (isWildcard_eq_false_iff.mp h).2
  · rintro ⟨c, rfl, h⟩
    exact .one h

theorem standsFor_iff_of_not_wildcard (hp : isWildcard p = false) : StandsFor p cs ↔ cs = [p] := by
  obtain ⟨hstar, hquestion⟩ := isWildcard_eq_false_iff.mp hp
  constructor
  · rintro (_ | _ | _)
    · exact absurd rfl hstar
    · exact absurd rfl hquestion
    · rfl
  · rintro rfl
    exact .itself hp

/-- A wildcard stands for itself, too. -/
theorem standsFor_self (p : Char) : StandsFor p [p] := by
  by_cases hstar : p = '*'
  · subst hstar
    exact .run (by simp)
  · by_cases hquestion : p = '?'
    · subst hquestion
      exact .one (by decide)
    · exact .itself (isWildcard_eq_false_iff.mpr ⟨hstar, hquestion⟩)

/-! ## The first piece -/

theorem spells_nil : Spells [] cs ↔ cs = [] := by
  simp [Spells, List.forall₂_nil_left_iff]

theorem spells_cons :
    Spells (p :: ps) cs ↔
      ∃ piece rest, StandsFor p piece ∧ Spells ps rest ∧ cs = piece ++ rest := by
  constructor
  · rintro ⟨pieces, hpieces, rfl⟩
    cases hpieces with
    | cons hp hps => exact ⟨_, _, hp, ⟨_, hps, rfl⟩, List.flatten_cons⟩
  · rintro ⟨piece, rest, hp, ⟨pieces, hps, rfl⟩, rfl⟩
    exact ⟨piece :: pieces, .cons hp hps, List.flatten_cons.symm⟩

/-- The piece of a star may be empty. -/
theorem Spells.star (h : Spells ps cs) : Spells ('*' :: ps) cs :=
  spells_cons.mpr ⟨[], cs, .run (by simp), h, rfl⟩

theorem spells_star_nil : Spells ('*' :: ps) [] ↔ Spells ps [] := by
  refine ⟨fun h => ?_, Spells.star⟩
  obtain ⟨piece, rest, -, hrest, hnil⟩ := spells_cons.mp h
  obtain ⟨-, rfl⟩ := List.append_eq_nil_iff.mp hnil.symm
  exact hrest

/-- The piece of a star is empty, or it has the first character and a star stands for the rest of
it. -/
theorem spells_star_cons :
    Spells ('*' :: ps) (c :: cs) ↔ Spells ps (c :: cs) ∨ c ≠ '\n' ∧ Spells ('*' :: ps) cs := by
  constructor
  · intro h
    obtain ⟨piece, rest, hp, hrest, heq⟩ := spells_cons.mp h
    rw [standsFor_star_iff] at hp
    cases piece with
    | nil => exact .inl (heq ▸ hrest)
    | cons b piece =>
        obtain ⟨rfl, rfl⟩ := List.cons.inj heq
        rw [List.forall_mem_cons] at hp
        exact .inr ⟨hp.1, spells_cons.mpr ⟨piece, rest, .run hp.2, hrest, rfl⟩⟩
  · rintro (h | ⟨hc, h⟩)
    · exact h.star
    · obtain ⟨piece, rest, hp, hrest, rfl⟩ := spells_cons.mp h
      rw [standsFor_star_iff] at hp
      have hpiece : ∀ b ∈ c :: piece, b ≠ '\n' := List.forall_mem_cons.mpr ⟨hc, hp⟩
      exact spells_cons.mpr ⟨c :: piece, rest, .run hpiece, hrest, rfl⟩

theorem spells_question_cons : Spells ('?' :: ps) (c :: cs) ↔ c ≠ '\n' ∧ Spells ps cs := by
  rw [spells_cons]
  constructor
  · rintro ⟨piece, rest, hp, hrest, heq⟩
    obtain ⟨b, rfl, hb⟩ := standsFor_question_iff.mp hp
    obtain ⟨rfl, rfl⟩ := List.cons.inj heq
    exact ⟨hb, hrest⟩
  · rintro ⟨hc, h⟩
    exact ⟨[c], cs, .one hc, h, rfl⟩

theorem spells_cons_of_not_wildcard (hp : isWildcard p = false) :
    Spells (p :: ps) (c :: cs) ↔ p = c ∧ Spells ps cs := by
  rw [spells_cons]
  constructor
  · rintro ⟨piece, rest, hpiece, hrest, heq⟩
    obtain rfl := (standsFor_iff_of_not_wildcard hp).mp hpiece
    obtain ⟨rfl, rfl⟩ := List.cons.inj heq
    exact ⟨rfl, hrest⟩
  · rintro ⟨rfl, h⟩
    exact ⟨[p], cs, .itself hp, h, rfl⟩

/-- Only a star has an empty piece. -/
theorem not_spells_cons_nil (hp : p ≠ '*') : ¬ Spells (p :: ps) [] := by
  intro h
  obtain ⟨piece, rest, hpiece, -, hnil⟩ := spells_cons.mp h
  obtain ⟨rfl, -⟩ := List.append_eq_nil_iff.mp hnil.symm
  cases hpiece with
  | run _ => exact hp rfl

/-- A glob spells its own text. -/
theorem spells_self (ps : List Char) : Spells ps ps := by
  induction ps with
  | nil => exact spells_nil.mpr rfl
  | cons p ps ih => exact spells_cons.mpr ⟨[p], ps, standsFor_self p, ih, rfl⟩

/-! ## Rows of answers -/

/-- A row has the right answer for every rest of a glob. -/
def Answers (cs ps : List Char) (row : List Bool) : Prop :=
  List.Forall₂ (fun rest answer => answer = true ↔ Spells rest cs) ps.tails row

theorem Answers.headD (h : Answers cs ps old) : old.headD false = true ↔ Spells ps cs := by
  cases ps with
  | nil => cases h with
    | cons hhead _ => exact hhead
  | cons p ps => cases h with
    | cons hhead _ => exact hhead

theorem Answers.tail (h : Answers cs (p :: ps) old) : Answers cs ps old.tail := by
  cases h with
  | cons _ htail => exact htail

theorem Answers.cons {answer : Bool} (hanswer : answer = true ↔ Spells (p :: ps) cs)
    (h : Answers cs ps old) : Answers cs (p :: ps) (answer :: old) := by
  rw [Answers, List.tails_cons]
  exact List.Forall₂.cons hanswer h

theorem answers_nil {answer : Bool} (h : answer = true ↔ cs = []) : Answers cs [] [answer] :=
  List.Forall₂.cons (h.trans spells_nil.symm) .nil

/-- The first row is right for the empty text. -/
theorem answers_startRow (ps : List Char) : Answers [] ps (startRow ps) := by
  induction ps with
  | nil => exact answers_nil (by simp)
  | cons p ps ih =>
      refine .cons ?_ ih
      rw [Bool.and_eq_true, decide_eq_true_eq, ih.headD]
      by_cases hp : p = '*'
      · subst hp
        rw [and_iff_right rfl, spells_star_nil]
      · exact iff_of_false (fun h => hp h.1) (not_spells_cons_nil hp)

/-- A row that is right for a text makes one that is right for the text with one more character in
front. -/
theorem Answers.stepRow (h : Answers cs ps old) (c : Char) :
    Answers (c :: cs) ps (stepRow c ps old) := by
  -- along the glob, as the answer for a star needs the new answer for the rest behind it
  induction ps generalizing old with
  | nil => exact answers_nil (by simp)
  | cons p ps ih =>
      have hrow := ih h.tail
      refine .cons ?_ hrow
      split_ifs with hstar hquestion
      · subst hstar
        rw [Bool.or_eq_true, Bool.and_eq_true, inLine_iff, hrow.headD, h.headD, spells_star_cons]
      · subst hquestion
        rw [Bool.and_eq_true, inLine_iff, h.tail.headD, spells_question_cons]
      · rw [Bool.and_eq_true, decide_eq_true_eq, h.tail.headD,
          spells_cons_of_not_wildcard (isWildcard_eq_false_iff.mpr ⟨hstar, hquestion⟩)]

theorem answers_row (ps cs : List Char) : Answers cs ps (row ps cs) := by
  induction cs with
  | nil => exact answers_startRow ps
  | cons c cs ih => exact ih.stepRow c

/-! ## Matching -/

theorem matchChars_iff : matchChars ps cs = true ↔ Spells ps cs :=
  (answers_row ps cs).headD

theorem isMatch_iff (g : Glob) (text : String) :
    g.isMatch text = true ↔ Spells g.source.toList text.toList :=
  matchChars_iff

/-- A glob matches its own text. -/
theorem isMatch_source (g : Glob) : g.isMatch g.source = true :=
  (isMatch_iff g g.source).mpr (spells_self _)

end Exposure.Glob
