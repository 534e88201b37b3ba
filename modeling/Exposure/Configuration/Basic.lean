import Exposure.File.System
import Exposure.Instantiation.Header
import Exposure.Policy.Basic

/-!
# Configurations

A configuration says what a pass works on: the headers, the exposed and hidden entities, the
requested instantiations and the files to write.  Either lists of targets make the conventional
policy, or a list of rules gives it in full.  Relative paths are joined to the directory of the
configuration, if it was read from a file that has one.
-/

namespace Exposure

/-- A rule as written: exactly one of its actions must be set. -/
structure RuleEntry where
  defaultDeny : Bool := false
  expose : Option String := none
  hide : Option String := none
  hideAccess : Option Access := none
deriving DecidableEq, Repr

/-- The files that a pass writes. -/
structure OutputPaths where
  /-- The generated header. -/
  header : Option String := none
  /-- The directory of the artifacts. -/
  artifacts : Option String := none
deriving DecidableEq, Repr

/-- A configuration. -/
structure Configuration where
  moduleName : String := "bindings"
  includePaths : List String := []
  headers : List String := []
  absoluteHeaders : Bool := false
  /-- Targets of exposed classes. -/
  classes : List String := []
  /-- Targets of other exposed declarations. -/
  declarations : List String := []
  /-- Targets that are hidden. -/
  hidden : List String := []
  /-- Access levels that are hidden. -/
  hiddenAccess : Option (List Access) := none
  /-- The rules, in place of the lists above. -/
  rules : Option (List RuleEntry) := none
  instantiations : List TemplateGroup := []
  headerOptions : HeaderOptions := {}
  output : OutputPaths := {}
  /-- The directory that relative paths start at, if it is not the working directory. -/
  directory : Option String := none
deriving DecidableEq, Repr

namespace RuleEntry

/-- The number of actions that are set. -/
def actionCount (r : RuleEntry) : Nat :=
  r.defaultDeny.toNat + r.expose.isSome.toNat + r.hide.isSome.toNat + r.hideAccess.isSome.toNat

/-- The rule of an entry. -/
def toRule (r : RuleEntry) : Except ConfigurationError Rule :=
  if r.actionCount ≠ 1 then .error (.invalid .ruleActions)
  else if r.defaultDeny then .ok .defaultDeny
  else
    match r.expose, r.hide, r.hideAccess with
    | some target, _, _ => Rule.parseExpose target
    | none, some target, _ => Rule.parseHide target
    | none, none, some access => .ok (.hideAccess access)
    -- not reached, since one action is set
    | none, none, none => .error (.invalid .emptyRule)

end RuleEntry

namespace Configuration

/-! ## The policy -/

/-- The access levels that are hidden when the configuration does not say so. -/
def defaultHiddenAccess : List Access := [.priv, .prot]

/-- The key that stands beside a list of rules although it would make rules, too. -/
def conflict? (c : Configuration) : Option PolicyKey :=
  if ! c.classes.isEmpty || ! c.declarations.isEmpty then some .expose
  else if ! c.hidden.isEmpty then some .hide
  else if c.hiddenAccess.isSome then some .hideAccess
  else none

/-- The policy of written rules; the default may be left out in front of them. -/
def policyOfEntries (entries : List RuleEntry) : Except ConfigurationError Policy := do
  let rules ← entries.mapM RuleEntry.toRule
  if rules.head? = some .defaultDeny then Policy.ofRules rules
  else Policy.ofRules (.defaultDeny :: rules)

/-- The policy of a configuration. -/
def policy (c : Configuration) : Except ConfigurationError Policy :=
  match c.rules with
  | some entries =>
      match c.conflict? with
      | some key => .error (.conflictingPolicy key)
      | none => policyOfEntries entries
  | none =>
      Policy.conventional c.classes c.declarations c.hidden
        (c.hiddenAccess.getD defaultHiddenAccess)

/-! ## Checks -/

/-- The table of the requested instantiations. -/
def table (c : Configuration) : InstantiationTable := .ofGroups c.instantiations

/-- Check everything that can be checked before a pass: the policy and the table that passed. -/
def validate (c : Configuration) : Except ConfigurationError (Policy × InstantiationTable) := do
  if Text.blank c.moduleName then throw (.invalid .emptyModuleName)
  let policy ← c.policy
  c.headerOptions.check c.table
  pure (policy, c.table)

/-! ## Paths -/

/-- A path of the configuration as it is used. -/
def resolvePath (c : Configuration) (path : String) : String :=
  match c.directory with
  | some directory => Path.join directory path
  | none => path

/-- The directories in which included files are looked for. -/
def resolvedIncludePaths (c : Configuration) : List String := c.includePaths.map c.resolvePath

/-- The path of the generated header, if it is written. -/
def headerPath? (c : Configuration) : Option String := c.output.header.map c.resolvePath

/-- The directory of the artifacts, if they are written. -/
def artifactDirectory? (c : Configuration) : Option String := c.output.artifacts.map c.resolvePath

/-- The headers below a directory, which is made absolute below the working directory. -/
def headersBelow (c : Configuration) (workingDirectory directory : String) : List String :=
  let base := Path.absolute workingDirectory directory
  c.headers.map (Path.join base)

end Configuration

end Exposure
