import Exposure.Instantiation.Table

/-!
# The generated header

The header includes the given files, declares one alias for each row of a table and probes each
instantiated type in a function, so that a front end has to instantiate it.  Aliases and the probe
function stand in nested namespaces.  The text is a list of lines, each ended by a newline; nothing
is written for an empty table.
-/

namespace Exposure

/-- How an included file is spelled. -/
inductive IncludeStyle where
  | angle
  | quoted
deriving DecidableEq, Repr

/-- How an alias is declared. -/
inductive AliasStyle where
  | typedefAlias
  | usingAlias
deriving DecidableEq, Repr

/-- The text of an include style in configurations. -/
def IncludeStyle.keyword : IncludeStyle → String
  | angle => "angle"
  | quoted => "quoted"

/-- The include styles in the order in which messages list them. -/
def IncludeStyle.all : List IncludeStyle := [angle, quoted]

/-- The include style that a keyword stands for. -/
def IncludeStyle.ofKeyword? (s : String) : Option IncludeStyle := all.find? (·.keyword = s)

/-- The text of an alias style in configurations. -/
def AliasStyle.keyword : AliasStyle → String
  | typedefAlias => "typedef"
  | usingAlias => "using"

/-- The alias styles in the order in which messages list them. -/
def AliasStyle.all : List AliasStyle := [typedefAlias, usingAlias]

/-- The alias style that a keyword stands for. -/
def AliasStyle.ofKeyword? (s : String) : Option AliasStyle := all.find? (·.keyword = s)

/-- The layout of a generated header. -/
structure HeaderOptions where
  /-- The nested namespaces, the outermost first. -/
  scopes : List String := ["bindsurface", "aliases"]
  /-- The name of the function with the probes. -/
  probeFunction : String := "instantiate"
  includeStyle : IncludeStyle := .angle
  aliasStyle : AliasStyle := .typedefAlias
deriving DecidableEq, Repr

namespace HeaderOptions

/-! ## Checks -/

/-- Check the names in the options by themselves. -/
def validate (o : HeaderOptions) : Except ConfigurationError Unit :=
  match o.scopes.find? (! isIdentifier ·) with
  | some bad => .error (.invalidIdentifier .namespaceSegment bad)
  | none =>
      if isIdentifier o.probeFunction then .ok ()
      else .error (.invalidIdentifier .probeFunction o.probeFunction)

/-- The other name of the header that an alias repeats, if it repeats one. -/
def collision? (o : HeaderOptions) (aliasName : String) : Option ConfigurationError :=
  if aliasName = o.probeFunction then some (.aliasCollision aliasName .probeFunction)
  else if aliasName ∈ o.scopes then some (.aliasCollision aliasName .namespaceSegment)
  else none

/-- Check a table together with the options. -/
def check (o : HeaderOptions) (t : InstantiationTable) : Except ConfigurationError Unit := do
  t.validate
  o.validate
  match t.aliases.findSome? o.collision? with
  | some e => .error e
  | none => .ok ()

/-! ## Lines -/

/-- The line that includes a file. -/
def includeLine (o : HeaderOptions) (path : String) : String :=
  match o.includeStyle with
  | .angle => "#include <" ++ path ++ ">"
  | .quoted => "#include \"" ++ path ++ "\""

/-- The line that declares the alias of a row. -/
def aliasLine (o : HeaderOptions) (r : Instantiation) : String :=
  match o.aliasStyle with
  | .typedefAlias => "    typedef " ++ r.typeText ++ " " ++ r.aliasName ++ ";"
  | .usingAlias => "    using " ++ r.aliasName ++ " = " ++ r.typeText ++ ";"

/-- The line that probes the type of a row. -/
def probeLine (r : Instantiation) : String :=
  "        (void) sizeof(" ++ r.typeText ++ ");"

/-- The line that opens the namespaces. -/
def openLine (o : HeaderOptions) : String :=
  " ".intercalate (o.scopes.map fun s => "namespace " ++ s ++ " \x7b")

/-- The line that closes the namespaces. -/
def closeLine (o : HeaderOptions) : String :=
  " ".intercalate (o.scopes.map fun _ => "\x7d")

/-- The lines around the declarations that open and close the namespaces, if there are any. -/
def inScopes (o : HeaderOptions) (inner : List String) : List String :=
  if o.scopes.isEmpty then inner else [o.openLine, ""] ++ inner ++ ["", o.closeLine]

/-- The lines of the function with the probes. -/
def probeLines (o : HeaderOptions) (t : InstantiationTable) : List String :=
  ["    inline void " ++ o.probeFunction ++ "() \x7b"] ++ t.rows.map probeLine ++ ["    \x7d"]

/-- The lines for a table. -/
def blockLines (o : HeaderOptions) (t : InstantiationTable) : List String :=
  o.inScopes (t.rows.map o.aliasLine ++ [""] ++ o.probeLines t)

/-- The lines of a header. -/
def lines (o : HeaderOptions) (paths : List String) (t : InstantiationTable) : List String :=
  if t.isEmpty then
    paths.map o.includeLine
  else if paths.isEmpty then
    o.blockLines t
  else
    paths.map o.includeLine ++ [""] ++ o.blockLines t

/-- A text of lines, each ended by a newline. -/
def unlines (ls : List String) : String := String.join (ls.map (· ++ "\n"))

/-- The header for the included files and a table; nothing is written when a check fails. -/
def generate (o : HeaderOptions) (paths : List String) (t : InstantiationTable) :
    Except ConfigurationError String := do
  o.check t
  pure (unlines (o.lines paths t))

/-- A header is written exactly when the checks succeed. -/
theorem generate_eq_ok_iff (o : HeaderOptions) (paths : List String) (t : InstantiationTable)
    (s : String) :
    o.generate paths t = .ok s ↔ o.check t = .ok () ∧ s = unlines (o.lines paths t) := by
  unfold generate
  cases h : o.check t with
  | error e => simp [bind, Except.bind]
  | ok u => cases u; simp [bind, Except.bind, pure, Except.pure, eq_comm]

end HeaderOptions

end Exposure
