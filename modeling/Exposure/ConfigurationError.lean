/-!
# Faults of a configuration

Everything that can be wrong with a table of instantiations, with the options of a header or with a
policy, as causes; `ConfigurationError.message` words them.
-/

namespace Exposure

/-- A name of the generated header that is not an alias. -/
inductive HeaderName where
  | namespaceSegment
  | probeFunction
deriving DecidableEq, Repr

/-- The text of such a name in messages. -/
def HeaderName.display : HeaderName → String
  | namespaceSegment => "namespace"
  | probeFunction => "probe function"

/-- A key of a configuration that cannot stand beside a list of rules. -/
inductive PolicyKey where
  | expose
  | hide
  | hideAccess
deriving DecidableEq, Repr

/-- The text of such a key in messages. -/
def PolicyKey.display : PolicyKey → String
  | expose => "expose"
  | hide => "hide"
  | hideAccess => "hide_access"

/-- A value of a configuration that is malformed by itself. -/
inductive InvalidValue where
  | emptyTarget
  | emptyModuleName
  | ruleActions
  | emptyRule
deriving DecidableEq, Repr

/-- The text of a malformed value. -/
def InvalidValue.message : InvalidValue → String
  | emptyTarget => "empty rule target"
  | emptyModuleName => "module name is empty"
  | ruleActions => "each rule needs exactly one of default_deny, include, exclude, exclude_access"
  | emptyRule => "empty rule"

/-- A glob that cannot be compiled, and why. -/
structure InvalidPattern where
  pattern : String
  reason : String
deriving DecidableEq, Repr

/-- What is wrong with a configuration. -/
inductive ConfigurationError where
  /-- Two instantiations have one alias. -/
  | duplicateAlias (aliasName first second : String)
  /-- No argument of an instantiation says anything. -/
  | emptyArgumentList (generic aliasName : String)
  /-- One argument of an instantiation is blank; positions count from zero. -/
  | blankArgument (generic aliasName : String) (position : Nat)
  /-- An instantiation names no template. -/
  | missingGeneric (aliasName : String)
  /-- An alias is also another name of the header. -/
  | aliasCollision (aliasName : String) (what : HeaderName)
  /-- An alias is not an identifier. -/
  | invalidAlias (aliasName : String)
  /-- Another name of the header is not an identifier. -/
  | invalidIdentifier (what : HeaderName) (value : String)
  /-- A list of rules does not start with the default. -/
  | missingDefaultRule
  /-- A glob cannot be compiled. -/
  | invalidPattern (fault : InvalidPattern)
  /-- A list of rules stands beside a key that would make rules, too. -/
  | conflictingPolicy (key : PolicyKey)
  /-- A value is malformed by itself. -/
  | invalid (value : InvalidValue)
deriving DecidableEq, Repr

/-- The text of a fault. -/
def ConfigurationError.message : ConfigurationError → String
  | duplicateAlias aliasName first second =>
      s!"duplicate alias '{aliasName}': requested for '{first}' and again for '{second}'"
  | emptyArgumentList generic aliasName =>
      s!"empty argument list for '{generic}' (alias '{aliasName}')"
  | blankArgument generic aliasName position =>
      s!"blank template argument #{position} for '{generic}' (alias '{aliasName}')"
  | missingGeneric aliasName => s!"missing template name for alias '{aliasName}'"
  | aliasCollision aliasName what =>
      s!"alias '{aliasName}' collides with the {what.display} of the same name"
  | invalidAlias aliasName => s!"invalid alias '{aliasName}': must be an identifier"
  | invalidIdentifier what value => s!"invalid {what.display} '{value}': must be an identifier"
  | missingDefaultRule => "policy must start with a default-deny rule"
  | invalidPattern fault => s!"invalid pattern '{fault.pattern}': {fault.reason}"
  | conflictingPolicy key => s!"explicit 'rules' cannot be combined with '{key.display}'"
  | invalid value => s!"invalid configuration: {value.message}"

end Exposure
