/-!
# Kinds of declarations

Methods and fields are the kinds that live only inside a class.  A set of kinds is a word with one
bit for each kind.
-/

namespace Exposure

/-- The kind of a declaration. -/
inductive EntityKind where
  | classType
  | function
  | method
  | field
  | namespaceScope
  | other
deriving DecidableEq, Repr

namespace EntityKind

/-- The kinds in the order in which messages list them. -/
def all : List EntityKind :=
  [classType, function, method, field, namespaceScope, other]

/-- The text of a kind in messages, dumps and manifests. -/
def keyword : EntityKind → String
  | classType => "class"
  | function => "function"
  | method => "method"
  | field => "field"
  | namespaceScope => "namespace"
  | other => "other"

/-- The kind that a keyword stands for. -/
def ofKeyword? (s : String) : Option EntityKind :=
  all.find? (·.keyword = s)

/-- Whether declarations of this kind live only inside a class and obey access rules. -/
def isMember : EntityKind → Bool
  | method | field => true
  | _ => false

/-- The place of the kind's bit in a set of kinds. -/
def bitIndex : EntityKind → Nat
  | classType => 0
  | function => 1
  | method => 2
  | field => 3
  | namespaceScope => 4
  | other => 5

@[simp] theorem mem_all (k : EntityKind) : k ∈ all := by
  cases k <;> simp [all]

theorem isMember_iff (k : EntityKind) : k.isMember = true ↔ k = .method ∨ k = .field := by
  cases k <;> simp [isMember]

@[simp] theorem ofKeyword?_keyword (k : EntityKind) : ofKeyword? k.keyword = some k := by
  cases k <;> decide

end EntityKind

/-- A set of kinds, as one bit for each kind. -/
structure KindSet where
  bits : BitVec 6
deriving DecidableEq, Repr

namespace KindSet

/-- The set without any kind. -/
def empty : KindSet := ⟨0⟩

/-- The set of one kind. -/
def singleton (k : EntityKind) : KindSet := ⟨BitVec.ofNat 6 (1 <<< k.bitIndex)⟩

/-- The kinds of either set. -/
def union (s t : KindSet) : KindSet := ⟨s.bits ||| t.bits⟩

/-- The kinds of both sets. -/
def inter (s t : KindSet) : KindSet := ⟨s.bits &&& t.bits⟩

/-- The kinds that are not in the set. -/
def compl (s : KindSet) : KindSet := ⟨~~~s.bits⟩

/-- Whether every kind of the second set is in the first. -/
def contains (s t : KindSet) : Bool := s.bits &&& t.bits == t.bits

/-- Whether a kind is in the set. -/
def has (s : KindSet) (k : EntityKind) : Bool := s.contains (singleton k)

/-- The set of the listed kinds. -/
def ofList (ks : List EntityKind) : KindSet :=
  ks.foldl (fun s k => s.union (singleton k)) empty

/-- The kinds that live only inside a class. -/
def members : KindSet := ofList [.method, .field]

/-- The kinds that live only inside a class are the members of that set. -/
theorem has_members (k : EntityKind) : members.has k = k.isMember := by
  cases k <;> decide

/-- A kind is in exactly one of a set and its complement. -/
theorem has_compl (s : KindSet) (k : EntityKind) : s.compl.has k = !s.has k := by
  rcases s with ⟨b⟩
  simp only [has, contains, compl, singleton]
  revert b
  cases k <;> decide

end KindSet

end Exposure
