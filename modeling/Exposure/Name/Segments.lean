import Exposure.Text.Blank

/-!
# Segments of a qualified name

A qualified name is written with `::` between its segments.  A `::` inside template brackets does
not separate: the text is scanned with a bracket depth that `<` raises and `>` lowers, never below
zero, and a separator counts only at depth zero.  The raw pieces are then trimmed, and blank ones
are dropped.  The main statement says that the raw pieces, joined by the separator, give the text
back.
-/

namespace Exposure.Name

/-- The text between two segments. -/
def separator : List Char := [':', ':']

/-- The bracket depth after one more character. -/
def nextDepth (d : Nat) (c : Char) : Nat :=
  if c = '<' then d + 1 else if c = '>' then d - 1 else d

/-- The bracket depth after a text. -/
def depthAfter (d : Nat) (cs : List Char) : Nat :=
  cs.foldl nextDepth d

/-- The raw pieces between the separators at depth zero; there is at least one. -/
def pieces : Nat → List Char → List (List Char)
  | _, [] => [[]]
  | _, [c] => [[c]]
  | d, c :: c' :: cs =>
      if d = 0 ∧ c = ':' ∧ c' = ':' then
        [] :: pieces 0 cs
      else
        (pieces (nextDepth d c) (c' :: cs)).modifyHead (c :: ·)

/-- The trimmed pieces that are not blank. -/
def segments (cs : List Char) : List (List Char) :=
  ((pieces 0 cs).map Text.trimChars).filter (! ·.isEmpty)

@[simp] theorem depthAfter_nil (d : Nat) : depthAfter d [] = d := rfl

@[simp] theorem depthAfter_cons (d : Nat) (c : Char) (cs : List Char) :
    depthAfter d (c :: cs) = depthAfter (nextDepth d c) cs := rfl

@[simp] theorem pieces_nil (d : Nat) : pieces d [] = [[]] := rfl

@[simp] theorem pieces_singleton (d : Nat) (c : Char) : pieces d [c] = [[c]] := rfl

@[simp] theorem pieces_separator (cs : List Char) :
    pieces 0 (':' :: ':' :: cs) = [] :: pieces 0 cs := by
  simp [pieces]

theorem pieces_ne_nil (d : Nat) (cs : List Char) : pieces d cs ≠ [] := by
  fun_induction pieces d cs with
  | case1 => simp
  | case2 => simp
  | case3 => simp
  | case4 d c c' cs h ih =>
      obtain ⟨p, ps, hp⟩ := List.exists_cons_of_ne_nil ih
      simp [hp]

/-- The pieces, joined by the separator, give the text back. -/
theorem intercalate_pieces (d : Nat) (cs : List Char) :
    separator.intercalate (pieces d cs) = cs := by
  fun_induction pieces d cs with
  | case1 => rfl
  | case2 => simp [List.intercalate]
  | case3 d c c' cs h ih =>
      obtain ⟨-, rfl, rfl⟩ := h
      obtain ⟨p, ps, hp⟩ := List.exists_cons_of_ne_nil (pieces_ne_nil 0 cs)
      rw [hp] at ih ⊢
      simp only [List.intercalate, List.intersperse, List.flatten_cons] at ih ⊢
      rw [ih]
      simp [separator]
  | case4 d c c' cs h ih =>
      obtain ⟨p, ps, hp⟩ :=
        List.exists_cons_of_ne_nil (pieces_ne_nil (nextDepth d c) (c' :: cs))
      rw [hp] at ih ⊢
      cases ps <;> simp_all [List.intercalate]

end Exposure.Name
