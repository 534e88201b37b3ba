import Exposure.Policy.Rule

/-!
# Policies

A policy is a sequence of rules that starts with the default, which hides everything.  The last rule
that matches an entity decides it.  The conventional policy exposes classes and declarations, then
hides targets, and hides access levels last.
-/

namespace Exposure

/-- A sequence of rules that starts with the default. -/
structure Policy where
  rules : List Rule
  startsWithDefault : rules.head? = some .defaultDeny
deriving DecidableEq, Repr

namespace Policy

/-- The policy that hides everything. -/
def hideAll : Policy := ⟨[.defaultDeny], rfl⟩

/-- The policy of a list of rules, which must start with the default. -/
def ofRules (rules : List Rule) : Except ConfigurationError Policy :=
  if h : rules.head? = some .defaultDeny then .ok ⟨rules, h⟩ else .error .missingDefaultRule

/-- Add a rule at the end. -/
def push (p : Policy) (r : Rule) : Policy :=
  ⟨p.rules ++ [r], by simp [List.head?_append, p.startsWithDefault]⟩

/-- The number of rules. -/
def size (p : Policy) : Nat := p.rules.length

/-- The rule at an index. -/
def get? (p : Policy) (i : Nat) : Option Rule := p.rules[i]?

/-- Add a rule that may be malformed. -/
def pushParsed (p : Policy) (r : Except ConfigurationError Rule) :
    Except ConfigurationError Policy :=
  r.map p.push

/-- Add a rule that exposes a target given as text. -/
def expose (p : Policy) (target : String) : Except ConfigurationError Policy :=
  p.pushParsed (Rule.parseExpose target)

/-- Add a rule that hides a target given as text. -/
def hide (p : Policy) (target : String) : Except ConfigurationError Policy :=
  p.pushParsed (Rule.parseHide target)

/-- Add a rule that hides the methods and fields of an access level. -/
def hideAccess (p : Policy) (access : Access) : Policy := p.push (.hideAccess access)

/-- The conventional policy: the classes and then the declarations are exposed, then targets are
hidden, and then access levels. -/
def conventional (classes declarations hidden : List String) (hiddenAccess : List Access) :
    Except ConfigurationError Policy := do
  let p ← classes.foldlM expose hideAll
  let p ← declarations.foldlM expose p
  let p ← hidden.foldlM hide p
  pure (hiddenAccess.foldl hideAccess p)

@[simp] theorem rules_hideAll : hideAll.rules = [.defaultDeny] := rfl

@[simp] theorem rules_push (p : Policy) (r : Rule) : (p.push r).rules = p.rules ++ [r] := rfl

/-- The policies that a list of rules makes are those with these rules. -/
theorem ofRules_eq_ok_iff (rs : List Rule) (p : Policy) : ofRules rs = .ok p ↔ rs = p.rules := by
  rcases p with ⟨rules, h⟩
  unfold ofRules
  split
  · simp
  · rename_i hne
    simp only [reduceCtorEq, false_iff]
    rintro rfl
    exact hne h

/-- The first rule is the default. -/
@[simp] theorem getElem?_rules_zero (p : Policy) : p.rules[0]? = some .defaultDeny := by
  rw [← List.head?_eq_getElem?]
  exact p.startsWithDefault

end Policy

end Exposure
