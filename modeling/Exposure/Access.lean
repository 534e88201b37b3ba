/-!
# Access levels

A member of a class is public, protected or private; every other declaration has no access level.
-/

namespace Exposure

/-- The access level of a declaration. -/
inductive Access where
  | pub
  | prot
  | priv
  | notApplicable
deriving DecidableEq, Repr

namespace Access

/-- The access levels in the order in which messages list them. -/
def all : List Access :=
  [pub, prot, priv, notApplicable]

instance : Inhabited Access := ⟨pub⟩

/-- Whether the level is one that a class member can be declared with. -/
def isSpecifier : Access → Bool
  | notApplicable => false
  | _ => true

/-- The text of a level in messages. -/
def display : Access → String
  | pub => "public"
  | prot => "protected"
  | priv => "private"
  | notApplicable => "n/a"

/-- The text of a level in dumps, manifests and configurations. -/
def keyword : Access → String
  | notApplicable => "not_applicable"
  | a => a.display

/-- The level that a keyword stands for. -/
def ofKeyword? (s : String) : Option Access :=
  all.find? (·.keyword = s)

/-- Read a level from its keyword or from its text in messages. -/
def parse (s : String) : Except String Access :=
  match all.find? fun a => a.keyword = s || a.display = s with
  | some a => .ok a
  | none => .error s!"unknown access level '{s}'"

@[simp] theorem mem_all (a : Access) : a ∈ all := by
  cases a <;> simp [all]

@[simp] theorem ofKeyword?_keyword (a : Access) : ofKeyword? a.keyword = some a := by
  cases a <;> decide

@[simp] theorem isSpecifier_eq_false_iff (a : Access) :
    a.isSpecifier = false ↔ a = notApplicable := by
  cases a <;> simp [isSpecifier]

end Access

end Exposure
