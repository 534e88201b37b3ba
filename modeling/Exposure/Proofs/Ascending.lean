import Mathlib.Data.List.Sort

/-!
# Ascending lists of places

Answers about a catalog list ids in strictly ascending order.  They come from lists in which every
id stands once, by sorting, or from arbitrary lists, by sorting and erasing repetitions.
-/

namespace Exposure.Ascending

variable {l : List Nat} {n : Nat}

theorem sortedLT_mergeSort (h : l.Nodup) : l.mergeSort.SortedLT :=
  List.sortedLE_mergeSort.sortedLT_of_nodup h.mergeSort

/-- Ascending lists with the same members, but for one that is behind all others. -/
theorem eq_concat_of_mem_iff {l' : List Nat} {p : Prop} [Decidable p] (h : l.SortedLT)
    (h' : l'.SortedLT) (hlt : ∀ i ∈ l, i < n) (hmem : ∀ i, i ∈ l' ↔ i ∈ l ∨ i = n ∧ p) :
    l' = l ++ if p then [n] else [] := by
  split_ifs with hp
  · refine h'.eq_of_mem_iff ?_ fun i => ?_
    · rw [List.sortedLT_iff_pairwise, List.pairwise_append]
      refine ⟨h.pairwise, List.pairwise_singleton _ _, fun i hi j hj => ?_⟩
      rw [List.mem_singleton.mp hj]
      exact hlt i hi
    · rw [hmem, List.mem_append, List.mem_singleton, and_iff_left hp]
  · rw [List.append_nil]
    refine h'.eq_of_mem_iff h fun i => ?_
    rw [hmem, or_iff_left fun hi => hp hi.2]

/-! ## Erasing repetitions -/

/-- What has been collected stands in front of the rest of the answer. -/
theorem eraseRepsBy_loop_eq (a : Nat) (l acc : List Nat) :
    List.eraseRepsBy.loop (· == ·) a l acc =
      acc.reverse ++ List.eraseRepsBy.loop (· == ·) a l [] := by
  induction l generalizing a acc with
  | nil => simp [List.eraseRepsBy.loop]
  | cons b l ih =>
      simp only [List.eraseRepsBy.loop]
      split
      · exact ih a acc
      · rw [ih b (a :: acc), ih b [a]]
        simp

theorem eraseReps_cons_cons (a b : Nat) (l : List Nat) :
    (a :: b :: l).eraseReps =
      if a = b then (b :: l).eraseReps else a :: (b :: l).eraseReps := by
  simp only [List.eraseReps, List.eraseRepsBy]
  by_cases h : a = b
  · subst h
    simp [List.eraseRepsBy.loop]
  · have hne : (a == b) = false := beq_eq_false_iff_ne.mpr h
    simp only [List.eraseRepsBy.loop, hne, if_neg h]
    exact eraseRepsBy_loop_eq b l [a]

@[simp] theorem mem_eraseReps : n ∈ l.eraseReps ↔ n ∈ l := by
  induction l with
  | nil => rfl
  | cons a l ih =>
      cases l with
      | nil => rfl
      | cons b l =>
          rw [eraseReps_cons_cons]
          split
          · rename_i h
            subst h
            simpa using ih
          · simp only [List.mem_cons] at ih ⊢
            rw [ih]

/-- Erasing the repetitions of an ascending list makes it strictly ascending. -/
theorem sortedLT_eraseReps (h : l.SortedLE) : l.eraseReps.SortedLT := by
  rw [List.sortedLE_iff_pairwise] at h
  rw [List.sortedLT_iff_pairwise]
  induction l with
  | nil => exact List.Pairwise.nil
  | cons a l ih =>
      cases l with
      | nil => exact List.pairwise_singleton _ _
      | cons b l =>
          rw [List.pairwise_cons] at h
          rw [eraseReps_cons_cons]
          split
          · exact ih h.2
          · rename_i hne
            refine List.pairwise_cons.mpr ⟨fun n hn => ?_, ih h.2⟩
            have hab : a < b := lt_of_le_of_ne (h.1 b List.mem_cons_self) hne
            rcases List.mem_cons.mp (mem_eraseReps.mp hn) with rfl | hn
            · exact hab
            · exact lt_of_lt_of_le hab ((List.pairwise_cons.mp h.2).1 n hn)

end Exposure.Ascending
