import Exposure.Json.Read

/-!
# What is read, whatever the text

A reader yields values with a property when all that it reads, from every text, has the property.
There is one lemma for each form of a reader, from the readers of the parts to the reader of the
whole; where a reader fails nothing is claimed.
-/

namespace Exposure.Json

variable {α β σ : Type}

/-! ## Results -/

/-- If there is a result, it has the property. -/
def Gives (r : Except Fault α) (P : α → Prop) : Prop := ∀ a, r = .ok a → P a

section Gives

variable {P : α → Prop} {Q : β → Prop} {r : Except Fault α} {a : α} {e : Fault}

theorem gives_ok (h : P a) : Gives (.ok a) P := by
  rintro _ ⟨⟩
  exact h

theorem gives_error : Gives (.error e) P := by
  rintro _ ⟨⟩

theorem gives_trivial (r : Except Fault α) : Gives r fun _ => True := fun _ _ => trivial

theorem Gives.bind {f : α → Except Fault β} (h : Gives r P) (hf : ∀ a, P a → Gives (f a) Q) :
    Gives (r >>= f) Q := by
  cases r with
  | error e => exact gives_error
  | ok a => exact hf a (h a rfl)

theorem Gives.map {f : α → β} (h : Gives r P) (hf : ∀ a, P a → Q (f a)) : Gives (r.map f) Q := by
  cases r with
  | error e => exact gives_error
  | ok a => exact gives_ok (hf a (h a rfl))

end Gives

/-- A value that must be there is the one that was given. -/
theorem gives_required (field : String) (a? : Option α) (rest : List Char) :
    Gives (required field a? rest) (· ∈ a?) := by
  cases a? with
  | none => exact gives_error
  | some a => exact gives_ok rfl

theorem gives_fieldOf (count : Nat) (expected : String) (a? : Option α) (rest : List Char) :
    Gives (fieldOf count expected a? rest) (· ∈ a?) := by
  cases a? with
  | none => exact gives_error
  | some a => exact gives_ok rfl

/-! ## Readers -/

/-- All that a reader reads has the property. -/
def Yields (read : List Char → Step α) (P : α → Prop) : Prop :=
  ∀ cs, Gives (read cs) fun r => P r.1

section Yields

variable {P : α → Prop} {read ofObject ofList : List Char → Step α}

theorem Yields.once {old : Option α} (h : Yields read P) (field : String) :
    Yields (once field old read) fun a? => ∀ a ∈ a?, P a := by
  intro cs
  cases old with
  | some a => exact gives_error
  | none =>
      refine (gives_trivial (colon cs)).bind fun rest _ => (h rest).bind ?_
      rintro ⟨a, rest⟩ ha
      exact gives_ok (by simpa using ha)

theorem Yields.nextField (h : Yields read P) (first : Bool) :
    Yields (nextField read first) fun a? => ∀ a ∈ a?, P a := by
  intro cs
  refine (gives_trivial (nextItem first cs)).bind ?_
  rintro ⟨more, rest⟩ -
  cases more with
  | false => exact gives_ok (by simp)
  | true =>
      refine (h rest).bind ?_
      rintro ⟨a, rest⟩ ha
      exact gives_ok (by simpa using ha)

/-- Closing keeps the value. -/
theorem Gives.closing {close : List Char → Except Fault (List Char)}
    {after : List Char → List Char} {r : Step α} (h : Gives r fun r => P r.1) :
    Gives (closing close after r) fun r => P r.1 := by
  rcases r with e | ⟨a, rest⟩
  · cases e <;> exact gives_error
  · exact (gives_trivial (close rest)).map fun _ _ => h (a, rest) rfl

theorem Yields.items (h : Yields read P) (n : Nat) (first : Bool) :
    Yields (items read n first) fun as => ∀ a ∈ as, P a := by
  intro cs
  induction n generalizing first cs with
  | zero => exact gives_ok (by simp)
  | succ n ih =>
      refine (gives_trivial (nextItem first cs)).bind ?_
      rintro ⟨more, rest⟩ -
      cases more with
      | false => exact gives_ok (by simp)
      | true =>
          refine (h rest).bind ?_
          rintro ⟨a, rest⟩ ha
          refine (ih false rest).bind ?_
          rintro ⟨as, rest⟩ has
          exact gives_ok (List.forall_mem_cons.mpr ⟨ha, has⟩)

theorem Yields.list (h : Yields read P) : Yields (list read) fun as => ∀ a ∈ as, P a := by
  intro cs
  rw [Json.list]
  split
  · exact gives_error
  · next rest _ => exact Gives.closing (P := fun as => ∀ a ∈ as, P a) (h.items _ true rest)
  · exact gives_error

theorem Yields.structure? (hobject : Yields ofObject P) (hlist : Yields ofList P)
    (name : String) : Yields (structure? name ofObject ofList) P := by
  intro cs
  rw [Json.structure?]
  split
  · exact gives_error
  · exact (hlist _).closing
  · exact (hobject _).closing
  · exact gives_error

/-- What each entry keeps, all entries of an object keep. -/
theorem yields_entries {I : σ → Prop} {read : String → σ → List Char → Step σ}
    (h : ∀ key s, I s → Yields (read key s) I) {s : σ} (hs : I s) (n : Nat) (first : Bool) :
    Yields (entries read n first s) I := by
  intro cs
  induction n generalizing first s cs with
  | zero => exact gives_ok hs
  | succ n ih =>
      refine (gives_trivial (nextKey first cs)).bind ?_
      rintro ⟨key?, rest⟩ -
      cases key? with
      | none => exact gives_ok hs
      | some key =>
          refine (h key s hs rest).bind ?_
          rintro ⟨s, rest⟩ hs
          exact ih hs false rest

end Yields

end Exposure.Json
