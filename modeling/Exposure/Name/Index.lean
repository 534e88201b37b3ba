import Exposure.Name.Basic

/-!
# Indices of names

An index maps qualified names to places.  It keeps what was put into it, the latest first, so a
later place of a name hides the earlier ones.
-/

namespace Exposure

/-- A map from qualified names to places. -/
structure NameIndex where
  /-- What was put into the index, the latest first. -/
  entries : List (QualifiedName × Nat)
deriving DecidableEq, Repr

namespace NameIndex

/-- The index without names. -/
def empty : NameIndex := ⟨[]⟩

/-- The place of a name. -/
def get? (x : NameIndex) (q : QualifiedName) : Option Nat := x.entries.lookup q

/-- Whether a name has a place. -/
def contains (x : NameIndex) (q : QualifiedName) : Bool := (x.get? q).isSome

/-- Put a name at a place. -/
def insert (x : NameIndex) (q : QualifiedName) (i : Nat) : NameIndex := ⟨(q, i) :: x.entries⟩

/-- The index of a list of names. -/
def ofNames (qs : List QualifiedName) : NameIndex :=
  qs.zipIdx.foldl (fun x q => x.insert q.1 q.2) empty

@[simp] theorem get?_empty (q : QualifiedName) : empty.get? q = none := rfl

@[simp] theorem get?_insert (x : NameIndex) (q r : QualifiedName) (i : Nat) :
    (x.insert q i).get? r = if q = r then some i else x.get? r := by
  by_cases h : q = r
  · subst h
    simp [get?, insert]
  · have hne : (r == q) = false := beq_eq_false_iff_ne.mpr fun hr => h hr.symm
    simp [get?, insert, List.lookup_cons, hne, h]

end NameIndex

end Exposure
