import Exposure.Access
import Exposure.Glob
import Exposure.Name.Basic

/-!
# Targets and rules

A rule exposes or hides the entities that it matches.  It names them by a target, which is either
one qualified name or a glob over written names, or by their access level.
-/

namespace Exposure

/-- What a rule names. -/
inductive Target where
  /-- The entity of a name. -/
  | exact (name : QualifiedName)
  /-- Every entity whose written name matches. -/
  | glob (pattern : Glob)
deriving DecidableEq, Repr

namespace Target

/-- Read a target; a text with a wildcard is a glob, every other text a name. -/
def parse (s : String) : Except ConfigurationError Target :=
  let t := Text.trim s
  if t.isEmpty then
    .error (.invalid .emptyTarget)
  else if t.toList.any Glob.isWildcard then
    (Glob.ofString t).map glob
  else
    .ok (exact (.parse t))

/-- The text of a target between its quotes. -/
def source : Target → String
  | exact name => name.display
  | glob pattern => pattern.source

/-- The text of a target. -/
def display (t : Target) : String := s!"`{t.source}`"

end Target

/-- One step of a policy. -/
inductive Rule where
  /-- Hide everything. -/
  | defaultDeny
  /-- Expose the target and what lies in the classes that it names. -/
  | expose (target : Target)
  /-- Hide the target and what lies in the classes that it names. -/
  | hide (target : Target)
  /-- Hide the methods and fields of an access level. -/
  | hideAccess (access : Access)
deriving DecidableEq, Repr

namespace Rule

/-- Whether the rule exposes what it matches. -/
def exposes : Rule → Bool
  | expose _ => true
  | _ => false

theorem exposes_eq_true_iff (r : Rule) : r.exposes = true ↔ ∃ target, r = expose target := by
  cases r <;> simp [exposes]

/-- The text of a rule. -/
def display : Rule → String
  | defaultDeny => "default deny"
  | expose target => s!"include {target.display}"
  | hide target => s!"exclude {target.display}"
  | hideAccess access => s!"exclude {access.display} members"

/-- The rule that exposes a target given as text. -/
def parseExpose (s : String) : Except ConfigurationError Rule := (Target.parse s).map expose

/-- The rule that hides a target given as text. -/
def parseHide (s : String) : Except ConfigurationError Rule := (Target.parse s).map hide

end Rule

end Exposure
