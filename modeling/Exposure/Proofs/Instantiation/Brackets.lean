import Mathlib.Data.List.Chain
import Exposure.Proofs.Instantiation.Checked

/-!
# Closing brackets stay apart

Two closing brackets side by side are read as one token by some front ends, so the text of a type
must not bring two of them together that stood in different parts.  They could only meet where two
parts do.  The opening bracket and the separator of the arguments keep their neighbours apart, and
the space in front of the last bracket is there exactly when the last argument ends with one.
-/

namespace Exposure

/-- Two closing brackets stand side by side somewhere in a text. -/
def ClosesTwice (s : String) : Prop := ['>', '>'] <:+: s.toList

instance (s : String) : Decidable (ClosesTwice s) :=
  inferInstanceAs (Decidable (['>', '>'] <:+: s.toList))

variable {s t sep : String} {ss : List String}

/-! ## Where two texts meet -/

theorem closesTwice_iff_not_isChain :
    ClosesTwice s ↔ ¬ s.toList.IsChain fun a b => ¬ (a = '>' ∧ b = '>') := by
  rw [List.isChain_iff_forall_rel_of_append_cons_cons]
  push Not
  constructor
  · rintro ⟨front, back, hs⟩
    exact ⟨'>', '>', front, back, by simp [← hs], rfl, rfl⟩
  · rintro ⟨_, _, front, back, hs, rfl, rfl⟩
    exact ⟨front, back, by simp [hs]⟩

/-- Two closing brackets stand side by side in one of two texts, or where the texts meet. -/
theorem closesTwice_append :
    ClosesTwice (s ++ t) ↔ ClosesTwice s ∨ ClosesTwice t ∨
      s.toList.getLast? = some '>' ∧ t.toList.head? = some '>' := by
  simp only [closesTwice_iff_not_isChain, String.toList_append, List.isChain_append]
  rw [not_and_or, not_and_or]
  refine or_congr_right (or_congr_right ?_)
  push Not
  constructor
  · rintro ⟨_, hs, _, ht, rfl, rfl⟩
    exact ⟨hs, ht⟩
  · rintro ⟨hs, ht⟩
    exact ⟨_, hs, _, ht, rfl, rfl⟩

theorem getLast?_append_ne {c : Char} (hne : sep ≠ "") (hsep : c ∉ sep.toList) :
    (s ++ sep).toList.getLast? ≠ some c := by
  intro h
  rw [String.toList_append, List.getLast?_append_of_ne_nil _ (by simpa using hne)] at h
  exact hsep (List.mem_of_getLast? h)

/-- A text without closing brackets keeps what stands around it apart. -/
theorem closesTwice_separated (hne : sep ≠ "") (hsep : '>' ∉ sep.toList) :
    ClosesTwice (s ++ sep ++ t) ↔ ClosesTwice s ∨ ClosesTwice t := by
  have hright : ¬ ((s ++ sep).toList.getLast? = some '>' ∧ t.toList.head? = some '>') :=
    fun h => getLast?_append_ne hne hsep h.1
  have hleft : ¬ (s.toList.getLast? = some '>' ∧ sep.toList.head? = some '>') :=
    fun h => hsep (List.mem_of_head? h.2)
  have htwice : ¬ ClosesTwice sep := fun h => hsep (h.subset List.mem_cons_self)
  rw [closesTwice_append, or_iff_left hright, closesTwice_append, or_iff_left hleft,
    or_iff_left htwice]

theorem closesTwice_intercalate (hne : sep ≠ "") (hsep : '>' ∉ sep.toList) :
    ClosesTwice (sep.intercalate ss) ↔ ∃ s ∈ ss, ClosesTwice s := by
  induction ss with
  | nil => simp [ClosesTwice]
  | cons s ss ih =>
      cases ss with
      | nil => simp
      | cons s' ss =>
          rw [String.intercalate_cons_cons, closesTwice_separated hne hsep, ih,
            List.exists_mem_cons_iff (a := s)]

/-- Joined texts end as the last of them does, if the separator does not end so. -/
theorem getLast?_intercalate_eq_some_iff {c : Char} (hne : sep ≠ "") (hsep : c ∉ sep.toList) :
    (sep.intercalate ss).toList.getLast? = some c ↔
      ∃ last, ss.getLast? = some last ∧ last.toList.getLast? = some c := by
  obtain rfl | ⟨front, last, rfl⟩ := ss.eq_nil_or_concat'
  · simp
  · rw [List.getLast?_concat]
    cases front with
    | nil => simp
    | cons s front =>
        rw [String.intercalate_append_of_ne_nil (by simp) (by simp), String.intercalate_singleton,
          String.toList_append, List.getLast?_append]
        cases hlast : last.toList.getLast? with
        | none =>
            rw [Option.none_or]
            exact iff_of_false (getLast?_append_ne hne hsep) (by simp [hlast])
        | some b => simp [hlast]

/-! ## The text of a type -/

namespace Instantiation

variable {r : Instantiation}

theorem closesTwice_argumentText :
    ClosesTwice r.argumentText ↔ ∃ a ∈ r.arguments, ClosesTwice (Text.trim a) := by
  rw [argumentText, closesTwice_intercalate (by decide) (by decide)]
  simp

/-- The last bracket meets no other one behind the arguments. -/
theorem closesTwice_append_closingPad {args : String} :
    ClosesTwice (args ++ closingPad args ++ ">") ↔ ClosesTwice args := by
  have hbracket : ¬ ClosesTwice ">" := by decide
  unfold closingPad
  split_ifs with hlast
  -- behind a bracket the pad is a space, and otherwise there is no bracket to meet
  · rw [closesTwice_separated (by decide) (by decide), or_iff_left hbracket]
  · rw [String.append_empty, closesTwice_append, or_iff_left]
    rintro (htwice | ⟨hlast', -⟩)
    · exact hbracket htwice
    · exact hlast hlast'

theorem closesTwice_typeText_iff :
    ClosesTwice r.typeText ↔
      ClosesTwice (Text.trim r.generic) ∨ ∃ a ∈ r.arguments, ClosesTwice (Text.trim a) := by
  have htext : r.typeText = Text.trim r.generic ++ "<" ++
      (r.argumentText ++ closingPad r.argumentText ++ ">") := by
    simp only [typeText, String.append_assoc]
  rw [htext, closesTwice_separated (by decide) (by decide), closesTwice_append_closingPad,
    closesTwice_argumentText]

/-- The arguments end with a closing bracket when the last of them does. -/
theorem getLast?_argumentText_eq_iff {front : List String} {last : String}
    (h : r.arguments = front ++ [last]) :
    r.argumentText.toList.getLast? = some '>' ↔ (Text.trim last).toList.getLast? = some '>' := by
  rw [argumentText, getLast?_intercalate_eq_some_iff (by decide) (by decide), h, List.map_append,
    List.map_singleton, List.getLast?_concat]
  simp

theorem typeText_eq_of_arguments {front : List String} {last : String}
    (h : r.arguments = front ++ [last]) :
    r.typeText = Text.trim r.generic ++ "<" ++ ", ".intercalate (r.arguments.map Text.trim) ++
      if (Text.trim last).toList.getLast? = some '>' then " >" else ">" := by
  have hclosing : closingPad r.argumentText ++ ">" =
      if (Text.trim last).toList.getLast? = some '>' then " >" else ">" := by
    rw [closingPad, if_congr (getLast?_argumentText_eq_iff h) rfl rfl]
    split <;> rfl
  calc
    r.typeText = Text.trim r.generic ++ "<" ++ r.argumentText ++
        (closingPad r.argumentText ++ ">") := by
      simp only [typeText, String.append_assoc]
    _ = _ := by rw [hclosing, argumentText]

/-- Closing brackets stand side by side in the text of a type only where they do in its parts. -/
structure ClosesApart (r : Instantiation) : Prop where
  closesTwice_iff : ClosesTwice r.typeText ↔
    ClosesTwice (Text.trim r.generic) ∨ ∃ a ∈ r.arguments, ClosesTwice (Text.trim a)
  /-- A row of a table that passes has a last argument, and a space goes in front of the last
  bracket exactly when this argument ends with one. -/
  typeText_eq : ∀ t : InstantiationTable, t.validate = .ok () → r ∈ t.rows →
    ∃ front last, r.arguments = front ++ [last] ∧
      r.typeText = Text.trim r.generic ++ "<" ++ ", ".intercalate (r.arguments.map Text.trim) ++
        if (Text.trim last).toList.getLast? = some '>' then " >" else ">"

/-- Whatever stands in a row, the text of its type keeps the brackets of different parts apart. -/
theorem closesApart (r : Instantiation) : r.ClosesApart where
  closesTwice_iff := closesTwice_typeText_iff
  typeText_eq t ht hr := by
    have hfault := (t.validate_eq_ok_iff.mp ht).1 r hr
    have hne : r.arguments ≠ [] := (r.fault?_eq_none_iff.mp hfault).2.1
    obtain ⟨front, last, hargs⟩ := (r.arguments.eq_nil_or_concat').resolve_left hne
    exact ⟨front, last, hargs, typeText_eq_of_arguments hargs⟩

/-- Blanks behind a bracket are trimmed, and then the bracket would meet the last one. -/
example : typeText ⟨" Box ", ["int", "std::vector<int>  "], "Boxes"⟩ =
    "Box<int, std::vector<int> >" := by
  decide +kernel

/-- A blank argument at the end keeps the bracket in front of it away. -/
example : typeText ⟨"Box", ["std::vector<int>", " "], "Boxes"⟩ = "Box<std::vector<int>, >" := by
  decide +kernel

end Instantiation

end Exposure
