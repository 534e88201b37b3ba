import Exposure.Name.Basic
import Exposure.Proofs.Name.Splitting

/-!
# Splitting distributes over the separator

Behind a text that ends closed the scan stands where it stands at the start of a text, so what
follows the separator is split as if nothing had stood before it.  The text in front may split
itself, may be empty and may hold any run of colons; it must only not lend a colon to the separator
or keep a bracket open over it.
-/

namespace Exposure.Name

variable {d : Nat} {s rest : List Char}

/-- A text that splits at its front and ends closed has a rest that ends closed too: a rest that is
empty would leave the second colon at the end. -/
theorem EndsClosed.of_separator (h : EndsClosed 0 (':' :: ':' :: s)) : EndsClosed 0 s := by
  obtain ⟨-, h⟩ := endsClosed_cons.mp h
  exact (endsClosed_cons.mp h).2

/-- The pieces of a text that ends closed stand unchanged in front of the pieces behind the
separator. -/
theorem pieces_append_separator (h : EndsClosed d s) :
    pieces d (s ++ separator ++ rest) = pieces d s ++ pieces 0 rest := by
  fun_induction pieces d s with
  | case1 d =>
      obtain rfl := endsClosed_nil.mp h
      exact pieces_separator rest
  | case2 d c =>
      obtain ⟨hc, h⟩ := endsClosed_cons.mp h
      have hnot : ¬ (d = 0 ∧ c = ':' ∧ (separator ++ rest).head? = some ':') :=
        fun hd => hc ⟨hd.1, hd.2.1, rfl⟩
      rw [List.append_assoc, List.singleton_append, pieces_cons_of_not hnot, endsClosed_nil.mp h,
        separator, List.cons_append, List.cons_append, List.nil_append, pieces_separator]
      rfl
  | case3 d c c' cs hd ih =>
      obtain ⟨rfl, rfl, rfl⟩ := hd
      have hrest := pieces_separator (cs ++ separator ++ rest)
      rw [ih h.of_separator] at hrest
      exact hrest
  | case4 d c c' cs hd ih =>
      have hnot : ¬ (d = 0 ∧ c = ':' ∧ (c' :: cs ++ separator ++ rest).head? = some ':') := by
        simpa using hd
      rw [List.cons_append, List.cons_append, pieces_cons_of_not hnot, ih (endsClosed_cons.mp h).2]
      obtain ⟨p, ps, hp⟩ := List.exists_cons_of_ne_nil (pieces_ne_nil (nextDepth d c) (c' :: cs))
      rw [hp]
      rfl

theorem segments_append_separator (h : EndsClosed 0 s) :
    segments (s ++ separator ++ rest) = segments s ++ segments rest := by
  rw [segments, pieces_append_separator h, List.map_append, List.filter_append]
  rfl

/-- A text that splits itself may end closed. -/
example : EndsClosed 0 "a::map<b::c>".toList := ⟨rfl, by simp⟩

/-- Nothing stands before a leading separator. -/
theorem segments_separator_append : segments (separator ++ rest) = segments rest :=
  segments_append_separator (endsClosed_nil.mpr rfl)

end Exposure.Name

namespace Exposure.QualifiedName

/-- A name is read the same with a separator in front of it. -/
theorem parse_separator_append (s : String) : parse ("::" ++ s) = parse s := by
  rw [parse, String.toList_append, show "::".toList = Name.separator from rfl,
    Name.segments_separator_append]
  rfl

end Exposure.QualifiedName
