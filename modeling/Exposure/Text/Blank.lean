/-!
# Blank characters and trimming

Text of a configuration or a dump is compared after its surrounding blanks are dropped.  A character
is blank when it has the Unicode property `White_Space`; neither the zero-width space nor the
byte-order mark has it.  The main statements say that a trimmed text has no blank at either end and
that trimming changes only texts that have one.
-/

namespace Exposure.Text

/-- The characters with the Unicode property `White_Space`. -/
def isBlank (c : Char) : Bool :=
  let n := c.toNat
  (0x09 ≤ n && n ≤ 0x0d) || n = 0x20 || n = 0x85 || n = 0xa0 || n = 0x1680 ||
    (0x2000 ≤ n && n ≤ 0x200a) || n = 0x2028 || n = 0x2029 || n = 0x202f || n = 0x205f ||
    n = 0x3000

/-- Drop the blanks at the front. -/
def trimStart (cs : List Char) : List Char :=
  cs.dropWhile isBlank

/-- Drop the blanks at the end. -/
def trimEnd : List Char → List Char
  | [] => []
  | c :: cs =>
      match trimEnd cs with
      | [] => if isBlank c then [] else [c]
      | d :: ds => c :: d :: ds

/-- Drop the blanks at both ends. -/
def trimChars (cs : List Char) : List Char :=
  trimEnd (trimStart cs)

/-- Drop the blanks at both ends of a text. -/
def trim (s : String) : String :=
  String.ofList (trimChars s.toList)

/-- A text is blank when nothing but blanks is in it. -/
def blank (s : String) : Bool :=
  s.toList.all isBlank

@[simp] theorem toList_trim (s : String) : (trim s).toList = trimChars s.toList := by
  simp [trim]

@[simp] theorem trimStart_nil : trimStart [] = [] := rfl

@[simp] theorem trimEnd_nil : trimEnd [] = [] := rfl

/-- Every character that the core library takes for whitespace is blank. -/
theorem isBlank_of_isWhitespace (c : Char) (h : c.isWhitespace = true) : isBlank c = true := by
  simp only [Char.isWhitespace, Bool.or_eq_true, decide_eq_true_eq] at h
  rcases h with ((h | h) | h) | h <;> subst h <;> decide

/-- Trimming the end leaves nothing exactly when everything is blank. -/
theorem trimEnd_eq_nil_iff (cs : List Char) : trimEnd cs = [] ↔ cs.all isBlank = true := by
  induction cs with
  | nil => simp
  | cons c cs ih =>
      cases h : trimEnd cs with
      | nil => by_cases hb : isBlank c <;> simp_all [trimEnd]
      | cons d ds =>
          have hne : ¬ cs.all isBlank = true := fun hall => by
            have := ih.2 hall
            simp [h] at this
          simp only [trimEnd, h, List.all_cons, Bool.and_eq_true]
          exact ⟨fun hc => by simp at hc, fun hc => absurd hc.2 hne⟩

/-- The last character of a text trimmed at its end is not blank. -/
theorem getLast?_trimEnd_not_blank (cs : List Char) (c : Char)
    (h : (trimEnd cs).getLast? = some c) : isBlank c = false := by
  induction cs with
  | nil => simp at h
  | cons d ds ih =>
      cases ht : trimEnd ds with
      | nil =>
          by_cases hb : isBlank d
          · simp [trimEnd, ht, hb] at h
          · simp only [trimEnd, ht, hb, Bool.false_eq_true, if_false, List.getLast?_singleton,
              Option.some.injEq] at h
            subst h
            simpa using hb
      | cons e es =>
          refine ih ?_
          rw [ht]
          simpa [trimEnd, ht] using h

/-- The text before the dropped blanks is kept as it is. -/
theorem trimEnd_append (cs : List Char) :
    ∃ bs : List Char, bs.all isBlank = true ∧ trimEnd cs ++ bs = cs := by
  induction cs with
  | nil => exact ⟨[], rfl, rfl⟩
  | cons c cs ih =>
      obtain ⟨bs, hb, happ⟩ := ih
      cases ht : trimEnd cs with
      | nil =>
          rw [ht, List.nil_append] at happ
          subst happ
          by_cases hc : isBlank c
          · exact ⟨c :: bs, by simp [hc, hb], by simp [trimEnd, ht, hc]⟩
          · exact ⟨bs, hb, by simp [trimEnd, ht, hc]⟩
      | cons d ds =>
          rw [ht] at happ
          exact ⟨bs, hb, by simp only [trimEnd, ht]; rw [← happ]; rfl⟩

/-- Trimming drops blanks from both ends and nothing else. -/
theorem exists_trimChars (cs : List Char) :
    ∃ front back, front.all isBlank = true ∧ back.all isBlank = true ∧
      front ++ trimChars cs ++ back = cs := by
  obtain ⟨back, hback, happ⟩ := trimEnd_append (trimStart cs)
  refine ⟨cs.takeWhile isBlank, back, List.all_takeWhile, hback, ?_⟩
  rw [List.append_assoc, trimChars, happ]
  exact List.takeWhile_append_dropWhile

theorem trimChars_sublist (cs : List Char) : (trimChars cs).Sublist cs := by
  obtain ⟨front, back, -, -, happ⟩ := exists_trimChars cs
  have hmid : (trimChars cs).Sublist (front ++ trimChars cs ++ back) :=
    (List.sublist_append_right front _).trans (List.sublist_append_left _ back)
  rwa [happ] at hmid

/-- A text whose first and last characters are not blank. -/
structure Trimmed (cs : List Char) : Prop where
  head_not_blank : ∀ c, cs.head? = some c → isBlank c = false
  last_not_blank : ∀ c, cs.getLast? = some c → isBlank c = false

theorem trimmed_trimChars (cs : List Char) : Trimmed (trimChars cs) := by
  refine ⟨fun c hc => ?_, getLast?_trimEnd_not_blank (trimStart cs)⟩
  obtain ⟨back, -, happ⟩ := trimEnd_append (trimStart cs)
  have hhead : (trimStart cs).head? = some c := by
    rw [← happ, List.head?_append, show (trimEnd (trimStart cs)).head? = some c from hc]
    rfl
  have hnot := List.head?_dropWhile_not isBlank cs
  rw [show (cs.dropWhile isBlank).head? = some c from hhead] at hnot
  simpa using hnot

/-- Trimming changes exactly the texts that have a blank at an end. -/
theorem trimChars_eq_self_iff (cs : List Char) : trimChars cs = cs ↔ Trimmed cs := by
  constructor
  · intro h
    rw [← h]
    exact trimmed_trimChars cs
  · intro h
    have hstart : trimStart cs = cs := by
      cases cs with
      | nil => rfl
      | cons c cs =>
          have hc := h.head_not_blank c rfl
          exact List.dropWhile_cons_of_neg (by simp [hc])
    obtain ⟨bs, hb, happ⟩ := trimEnd_append cs
    rw [trimChars, hstart]
    cases hl : bs.getLast? with
    | none =>
        rw [List.getLast?_eq_none_iff.mp hl, List.append_nil] at happ
        exact happ
    | some b =>
        have hlast := h.last_not_blank b (by rw [← happ, List.getLast?_append, hl]; rfl)
        have hall := List.all_eq_true.mp hb b (List.mem_of_getLast? hl)
        rw [hlast] at hall
        cases hall

end Exposure.Text
