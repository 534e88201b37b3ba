import Exposure.Name.Segments

/-!
# Qualified names

A qualified name is a simple name inside a list of enclosing segments, the outermost first.  Names
are equal when their segments are; two different names may be written alike, since a segment may
hold the separator.
-/

namespace Exposure

/-- A simple name with the segments that enclose it, the outermost first. -/
structure QualifiedName where
  enclosing : List String
  name : String
deriving DecidableEq, Repr

namespace QualifiedName

/-- A name that nothing encloses; the text is taken as one segment. -/
def top (name : String) : QualifiedName := ⟨[], name⟩

/-- All segments of a name, the outermost first. -/
def segments (q : QualifiedName) : List String := q.enclosing ++ [q.name]

/-- The name whose segments are given; without any segment it is the empty name. -/
def ofSegments (ss : List String) : QualifiedName :=
  ⟨ss.dropLast, ss.getLast?.getD ""⟩

/-- Read a name: its last segment is the simple name. -/
def parse (s : String) : QualifiedName :=
  ofSegments ((Name.segments s.toList).map String.ofList)

/-- Write segments with the separator between them. -/
def join (ss : List String) : String := "::".intercalate ss

/-- The written form of a name. -/
def display (q : QualifiedName) : String := join q.segments

/-- The written form of what encloses a name. -/
def enclosingText (q : QualifiedName) : String := join q.enclosing

/-- Whether nothing encloses the name. -/
def isTop (q : QualifiedName) : Bool := q.enclosing.isEmpty

/-- The name inside another one; the text is taken as one segment. -/
def child (q : QualifiedName) (name : String) : QualifiedName := ⟨q.segments, name⟩

/-- The name that encloses another one. -/
def parent? (q : QualifiedName) : Option QualifiedName :=
  match q.enclosing.getLast? with
  | some n => some ⟨q.enclosing.dropLast, n⟩
  | none => none

/-- The names around a name, the innermost first. -/
def parents (q : QualifiedName) : List QualifiedName :=
  (List.range q.enclosing.length).reverse.map fun i => ofSegments (q.enclosing.take (i + 1))

/-- Whether a name comes back from its written form. -/
def reparses (q : QualifiedName) : Bool := parse q.display = q

/-- Names are ordered by their enclosing segments, and then by the simple name. -/
def compare (p q : QualifiedName) : Ordering :=
  (Ord.compare p.enclosing q.enclosing).then (Ord.compare p.name q.name)

instance : Ord QualifiedName := ⟨compare⟩

/-- The names in their order. -/
def sort (qs : List QualifiedName) : List QualifiedName :=
  qs.mergeSort fun p q => (compare p q).isLE

@[simp] theorem segments_ofSegments (ss : List String) (h : ss ≠ []) :
    (ofSegments ss).segments = ss := by
  simp [segments, ofSegments, List.getLast?_eq_some_getLast h, List.dropLast_concat_getLast]

@[simp] theorem ofSegments_segments (q : QualifiedName) : ofSegments q.segments = q := by
  simp [segments, ofSegments]

/-- Names with the same segments are the same name. -/
theorem segments_inj {p q : QualifiedName} : p.segments = q.segments ↔ p = q := by
  refine ⟨fun h => ?_, fun h => h ▸ rfl⟩
  have := congrArg ofSegments h
  simpa using this

@[simp] theorem segments_child (q : QualifiedName) (s : String) :
    (q.child s).segments = q.segments ++ [s] := rfl

@[simp] theorem parent?_child (q : QualifiedName) (s : String) :
    (q.child s).parent? = some q := by
  simp [parent?, child, segments]

@[simp] theorem display_top (s : String) : (top s).display = s := by
  simp [display, top, segments, join]

/-- A name without enclosing segments has no parent, and only such a name. -/
theorem parent?_eq_none_iff (q : QualifiedName) : q.parent? = none ↔ q.isTop = true := by
  rcases q with ⟨e, n⟩
  cases h : e.getLast? with
  | none => simp_all [parent?, isTop]
  | some s =>
      have : e ≠ [] := fun he => by simp [he] at h
      simp [parent?, isTop, h, this]

end QualifiedName

end Exposure
