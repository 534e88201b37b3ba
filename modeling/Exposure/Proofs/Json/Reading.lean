import Exposure.Json.Read
import Exposure.Proofs.Json.Texts

/-!
# Written documents read back

A reader reads a document to a value when it takes just the document from the front of any text.
There is one lemma for each form of a reader: from what the readers of the parts do follows what the
reader of the whole does.  The readers of lists and objects have a bound on the number of items; a
document is long enough that the bound is never met.
-/

namespace Exposure.Json

variable {α σ : Type} {read : List Char → Step α} {t : Tree} {a : α} {c : Char}
  {cs rest : List Char}

/-! ## The characters of documents -/

/-- Items with commas between them: the first, and each other one behind its comma. -/
theorem intercalate_comma_cons (x : List Char) (xs : List (List Char)) :
    [','].intercalate (x :: xs) = x ++ xs.flatMap (',' :: ·) := by
  induction xs generalizing x with
  | nil => simp [List.intercalate]
  | cons y ys ih => rw [List.intercalate_cons_cons, ih, List.flatMap_cons]; simp

theorem toList_compact_text (s : String) :
    (Tree.text s).compact.toList = '"' :: (s.toList.flatMap escapeChar ++ ['"']) := by
  rw [Tree.compact, written, String.toList_ofList, writtenChars]

theorem toList_compact_list (ts : List Tree) :
    (Tree.list ts).compact.toList =
      '[' :: ([','].intercalate (ts.map fun t => t.compact.toList) ++ [']']) := by
  have hlist : (compactList ts).map String.toList = ts.map fun t => t.compact.toList := by
    induction ts with
    | nil => rfl
    | cons t ts ih => rw [compactList, List.map_cons, ih, List.map_cons]
  rw [Tree.compact, String.toList_append, String.toList_append, String.toList_intercalate, hlist]
  rfl

/-- The characters of an entry of an object. -/
def entryChars (e : String × Tree) : List Char :=
  '"' :: (e.1.toList.flatMap escapeChar ++ '"' :: ':' :: e.2.compact.toList)

theorem toList_compact_object (es : List (String × Tree)) :
    (Tree.object es).compact.toList =
      '\x7b' :: ([','].intercalate (es.map entryChars) ++ ['\x7d']) := by
  have hentries : (compactEntries es).map String.toList = es.map entryChars := by
    induction es with
    | nil => rfl
    | cons e es ih =>
        rw [compactEntries, List.map_cons, ih, List.map_cons, entryChars]
        simp [written, writtenChars]
  rw [Tree.compact, String.toList_append, String.toList_append, String.toList_intercalate,
    hentries]
  rfl

/-- No document starts with a blank, like the end of a list or like the word for nothing. -/
theorem exists_toList_compact_eq_cons (t : Tree) :
    ∃ c cs, t.compact.toList = c :: cs ∧ isBlank c = false ∧ c ≠ ']' ∧ c ≠ 'n' := by
  cases t with
  | text s => exact ⟨_, _, toList_compact_text s, by decide, by decide, by decide⟩
  | list ts => exact ⟨_, _, toList_compact_list ts, by decide, by decide, by decide⟩
  | object es => exact ⟨_, _, toList_compact_object es, by decide, by decide, by decide⟩
  | number n =>
      have hdigits : (Tree.number n).compact.toList = Nat.toDigits 10 n := by
        rw [Tree.compact]
        exact Nat.toList_repr
      have hne : Nat.toDigits 10 n ≠ [] := Nat.toDigits_ne_nil
      obtain ⟨c, cs, hcs⟩ := List.exists_cons_of_ne_nil hne
      have hdigit : c.isDigit = true :=
        Nat.isDigit_of_mem_toDigits (by decide) (by decide) (hcs ▸ List.mem_cons_self)
      refine ⟨c, cs, hdigits.trans hcs, ?_, ?_, ?_⟩
      · simp only [isBlank, Bool.or_eq_false_iff, decide_eq_false_iff_not]
        refine ⟨⟨⟨?_, ?_⟩, ?_⟩, ?_⟩ <;> rintro rfl <;> simp at hdigit
      · rintro rfl
        simp at hdigit
      · rintro rfl
        simp at hdigit

theorem skipBlanks_cons (h : isBlank c = false) : skipBlanks (c :: cs) = c :: cs := by
  simp [skipBlanks, h]

/-! ## Single values -/

/-- A reader takes the document from the front of every text and makes the value of it. -/
def Reads (read : List Char → Step α) (t : Tree) (a : α) : Prop :=
  ∀ rest, read (t.compact.toList ++ rest) = .ok (a, rest)

theorem reads_text (expected s : String) : Reads (text expected) (.text s) s := by
  intro rest
  rw [toList_compact_text, List.cons_append, List.append_assoc, text, skipBlanks_cons (by decide)]
  exact stringText_flatMap_escapeChar s rest

theorem reads_choice {ofKeyword? : String → Option α} {k : String} (h : ofKeyword? k = some a)
    (all : List String) : Reads (choice ofKeyword? all) (.text k) a := by
  intro rest
  rw [toList_compact_text, List.cons_append, List.append_assoc, choice,
    skipBlanks_cons (by decide)]
  simp [keyword, h]

theorem Reads.optional (h : Reads read t a) : Reads (optional read) t (some a) := by
  intro rest
  obtain ⟨c, cs, hcs, hblank, -, hn⟩ := exists_toList_compact_eq_cons t
  have hread := h rest
  rw [hcs, List.cons_append] at hread ⊢
  rw [Json.optional, skipBlanks_cons hblank]
  split
  · next heq => exact absurd (List.cons.inj heq).1 hn
  · rw [hread]
    rfl

/-! ## Lists -/

theorem nextItem_first (t : Tree) (rest : List Char) :
    nextItem true (t.compact.toList ++ rest) = .ok (true, t.compact.toList ++ rest) := by
  obtain ⟨c, cs, hcs, hblank, hstop, -⟩ := exists_toList_compact_eq_cons t
  rw [hcs, List.cons_append, nextItem, skipBlanks_cons hblank]
  split
  · next heq => cases heq
  · next heq => exact absurd (List.cons.inj heq).1 hstop
  · next heq => rw [if_pos rfl, heq]

theorem nextItem_comma (t : Tree) (rest : List Char) :
    nextItem false (',' :: (t.compact.toList ++ rest)) = .ok (true, t.compact.toList ++ rest) := by
  obtain ⟨c, cs, hcs, hblank, hstop, -⟩ := exists_toList_compact_eq_cons t
  rw [hcs, List.cons_append, nextItem, skipBlanks_cons (by decide)]
  split
  · next heq => cases heq
  · next heq => exact absurd (List.cons.inj heq).1 (by decide)
  · next heq =>
      obtain ⟨rfl, rfl⟩ := List.cons.inj heq
      rw [if_neg (by decide), if_pos rfl, skipBlanks_cons hblank]
      split
      · next heq => exact absurd (List.cons.inj heq).1 hstop
      · next heq => cases heq
      · rfl

theorem nextItem_stop (first : Bool) (rest : List Char) :
    nextItem first (']' :: rest) = .ok (false, ']' :: rest) := by
  rw [nextItem, skipBlanks_cons (by decide)]
  rfl

/-- Items of which each stands behind a comma. -/
theorem items_comma {ts : List Tree} {as : List α} {n : Nat} (h : List.Forall₂ (Reads read) ts as)
    (hn : ts.length < n) (rest : List Char) :
    items read n false (ts.flatMap (fun t => ',' :: t.compact.toList) ++ ']' :: rest) =
      .ok (as, ']' :: rest) := by
  induction h generalizing n with
  | nil =>
      obtain ⟨n, rfl⟩ := Nat.exists_eq_succ_of_ne_zero (Nat.ne_zero_of_lt hn)
      rw [List.flatMap_nil, List.nil_append, items, nextItem_stop]
      rfl
  | @cons t a ts as ht hts ih =>
      obtain ⟨n, rfl⟩ := Nat.exists_eq_succ_of_ne_zero (Nat.ne_zero_of_lt hn)
      rw [List.flatMap_cons, List.append_assoc, List.cons_append, items, nextItem_comma]
      simp only [bind, Except.bind, if_true, ht _, ih (Nat.lt_of_succ_lt_succ hn)]
      rfl

/-- Items of which each but the first stands behind a comma. -/
theorem items_intercalate {ts : List Tree} {as : List α} {n : Nat}
    (h : List.Forall₂ (Reads read) ts as) (hn : ts.length < n) (rest : List Char) :
    items read n true ([','].intercalate (ts.map fun t => t.compact.toList) ++ ']' :: rest) =
      .ok (as, ']' :: rest) := by
  obtain ⟨n, rfl⟩ := Nat.exists_eq_succ_of_ne_zero (Nat.ne_zero_of_lt hn)
  cases h with
  | nil =>
      rw [List.map_nil, List.intercalate_nil, List.nil_append, items, nextItem_stop]
      rfl
  | @cons t a ts as ht hts =>
      rw [List.map_cons, intercalate_comma_cons, List.flatMap_map, List.append_assoc, items,
        nextItem_first]
      simp only [bind, Except.bind, if_true, ht _, items_comma hts (Nat.lt_of_succ_lt_succ hn)]
      rfl

theorem length_le_flatMap_comma (xs : List (List Char)) :
    xs.length ≤ (xs.flatMap (',' :: ·)).length := by
  induction xs with
  | nil => simp
  | cons x xs ih =>
      rw [List.flatMap_cons, List.length_append, List.length_cons, List.length_cons]
      omega

/-- Items with commas between them are at most as many as their characters. -/
theorem length_le_intercalate {xs : List (List Char)} (h : ∀ x ∈ xs, x ≠ []) :
    xs.length ≤ ([','].intercalate xs).length := by
  cases xs with
  | nil => simp
  | cons x xs =>
      have hx : 1 ≤ x.length := List.length_pos_iff.mpr (h x List.mem_cons_self)
      have hxs := length_le_flatMap_comma xs
      rw [intercalate_comma_cons, List.length_append, List.length_cons]
      omega

/-- A list is read when each of its items is. -/
theorem Reads.list {ts : List Tree} {as : List α} (h : List.Forall₂ (Reads read) ts as) :
    Reads (list read) (.list ts) as := by
  intro rest
  have hlength : ts.length ≤
      ([','].intercalate (ts.map fun t => t.compact.toList)).length := by
    rw [← List.length_map (f := fun t : Tree => t.compact.toList)]
    apply length_le_intercalate
    intro x hx
    obtain ⟨t, -, rfl⟩ := List.mem_map.mp hx
    obtain ⟨c, cs, hcs, -⟩ := exists_toList_compact_eq_cons t
    simp [hcs]
  rw [toList_compact_list, List.cons_append, List.append_assoc, Json.list,
    skipBlanks_cons (by decide)]
  simp only [List.singleton_append]
  rw [items_intercalate h (by simp; omega)]
  rfl

/-! ## Objects -/

section Objects

variable {read : String → σ → List Char → Step σ} {es : List (String × Tree)} {s s' : σ}

/-- The value of a key, with the colon in front of it, leads from one state to another. -/
def Takes (read : String → σ → List Char → Step σ) (k : String) (t : Tree) (s s' : σ) : Prop :=
  ∀ rest, read k s (':' :: (t.compact.toList ++ rest)) = .ok (s', rest)

/-- The entries of an object, read one after the other, lead from one state to another. -/
inductive Gathers (read : String → σ → List Char → Step σ) :
    List (String × Tree) → σ → σ → Prop
  | nil (s : σ) : Gathers read [] s s
  | cons {k : String} {t : Tree} {es : List (String × Tree)} {s s' s'' : σ}
      (head : Takes read k t s s') (tail : Gathers read es s' s'') :
      Gathers read ((k, t) :: es) s s''

theorem nextKey_first (e : String × Tree) (rest : List Char) :
    nextKey true (entryChars e ++ rest) =
      .ok (some e.1, ':' :: (e.2.compact.toList ++ rest)) := by
  rw [entryChars, nextKey, List.cons_append, skipBlanks_cons (by decide)]
  simp [Except.map]

theorem nextKey_comma (e : String × Tree) (rest : List Char) :
    nextKey false (',' :: (entryChars e ++ rest)) =
      .ok (some e.1, ':' :: (e.2.compact.toList ++ rest)) := by
  rw [entryChars, nextKey, skipBlanks_cons (by decide), List.cons_append]
  simp [skipBlanks_cons (show isBlank '"' = false by decide), Except.map]

theorem nextKey_stop (first : Bool) (rest : List Char) :
    nextKey first ('\x7d' :: rest) = .ok (none, '\x7d' :: rest) := by
  rw [nextKey, skipBlanks_cons (by decide)]
  rfl

/-- Entries of which each stands behind a comma. -/
theorem Gathers.entries_comma (h : Gathers read es s s') {n : Nat} (hn : es.length < n)
    (rest : List Char) :
    entries read n false s (es.flatMap (fun e => ',' :: entryChars e) ++ '\x7d' :: rest) =
      .ok (s', '\x7d' :: rest) := by
  induction h generalizing n with
  | nil s =>
      obtain ⟨n, rfl⟩ := Nat.exists_eq_succ_of_ne_zero (Nat.ne_zero_of_lt hn)
      rw [List.flatMap_nil, List.nil_append, entries, nextKey_stop]
      rfl
  | @cons k t es s s' s'' head tail ih =>
      obtain ⟨n, rfl⟩ := Nat.exists_eq_succ_of_ne_zero (Nat.ne_zero_of_lt hn)
      rw [List.flatMap_cons, List.append_assoc, List.cons_append, entries, nextKey_comma]
      simp only [bind, Except.bind, head _, ih (Nat.lt_of_succ_lt_succ hn)]

/-- Entries of which each but the first stands behind a comma; the bound is never met. -/
theorem Gathers.entries_intercalate (h : Gathers read es s s') (rest : List Char) :
    entries read (([','].intercalate (es.map entryChars) ++ '\x7d' :: rest).length + 1) true s
        ([','].intercalate (es.map entryChars) ++ '\x7d' :: rest) =
      .ok (s', '\x7d' :: rest) := by
  have hlength : es.length ≤ ([','].intercalate (es.map entryChars)).length := by
    rw [← List.length_map (f := entryChars)]
    apply length_le_intercalate
    intro x hx
    obtain ⟨e, -, rfl⟩ := List.mem_map.mp hx
    exact List.cons_ne_nil _ _
  have hn : es.length < ([','].intercalate (es.map entryChars) ++ '\x7d' :: rest).length := by
    rw [List.length_append, List.length_cons]
    omega
  -- from here on it only matters that the bound is large enough
  generalize ([','].intercalate (es.map entryChars) ++ '\x7d' :: rest).length = n at hn
  cases h with
  | nil s =>
      rw [List.map_nil, List.intercalate_nil, List.nil_append, entries, nextKey_stop]
      rfl
  | @cons k t es s s' s'' head tail =>
      rw [List.map_cons, intercalate_comma_cons, List.flatMap_map, List.append_assoc, entries,
        nextKey_first]
      simp only [bind, Except.bind, head _]
      exact tail.entries_comma (Nat.lt_of_succ_lt hn) rest

/-- The value of a key is read when it has not been given before. -/
theorem Reads.once {read : List Char → Step α} (h : Reads read t a) (field : String)
    (rest : List Char) :
    once field none read (':' :: (t.compact.toList ++ rest)) = .ok (some a, rest) := by
  simp only [Json.once, colon, skipBlanks_cons (show isBlank ':' = false by decide), bind,
    Except.bind, h _]
  rfl

/-- A structure is read from an object when its entries are. -/
theorem Reads.structure? {ofObject ofList : List Char → Step α} {name : String}
    (h : ∀ rest, ofObject ([','].intercalate (es.map entryChars) ++ '\x7d' :: rest) =
      .ok (a, '\x7d' :: rest)) :
    Reads (structure? name ofObject ofList) (.object es) a := by
  intro rest
  rw [toList_compact_object, List.cons_append, List.append_assoc, Json.structure?,
    skipBlanks_cons (by decide)]
  simp only [List.singleton_append, h, closing, closeObject,
    skipBlanks_cons (show isBlank '\x7d' = false by decide)]
  rfl

end Objects

end Exposure.Json
