import Exposure.Configuration.Basic
import Exposure.Instantiation.HeaderForm
import Exposure.Yaml.Form

/-!
# Configurations as YAML documents

A configuration is a mapping whose keys may all be left out.  Unknown keys are refused everywhere;
an instance must give its arguments and its alias, a group of instances its template.
-/

namespace Exposure.Configuration

open Yaml (Fault Form FormM Place Node)

/-! ## Values -/

/-- A text. -/
def text : Form String := Form.text "a string"

/-- A path. -/
def path : Form String := Form.text "path string"

/-- A list of texts. -/
def texts : Form (List String) := Form.list text

/-- An access level. -/
def access : Form Access := Form.choice Access.ofKeyword? (Access.all.map Access.keyword)

/-- An include style. -/
def includeStyle : Form IncludeStyle :=
  Form.choice IncludeStyle.ofKeyword? (IncludeStyle.all.map IncludeStyle.keyword)

/-- An alias style. -/
def aliasStyle : Form AliasStyle :=
  Form.choice AliasStyle.ofKeyword? (AliasStyle.all.map AliasStyle.keyword)

/-! ## Structures -/

/-- The keys of the exposed targets. -/
def exposeKeys : List String := ["classes", "declarations"]

/-- Set the exposed targets of a key. -/
def setExposed (key : String) (p : Place) (n : Node) (c : Configuration) :
    FormM Configuration :=
  if key = "classes" then (texts p n).map fun x => { c with classes := x }
  else (texts p n).map fun x => { c with declarations := x }

/-- The keys of a rule. -/
def ruleKeys : List String := ["default_deny", "include", "exclude", "exclude_access"]

/-- Set the action of a key. -/
def setAction (key : String) (p : Place) (n : Node) (r : RuleEntry) : FormM RuleEntry :=
  if key = "default_deny" then (Form.boolean p n).map fun x => { r with defaultDeny := x }
  else if key = "include" then (Form.optional text p n).map fun x => { r with expose := x }
  else if key = "exclude" then (Form.optional text p n).map fun x => { r with hide := x }
  else (Form.optional access p n).map fun x => { r with hideAccess := x }

/-- A rule. -/
def ruleEntry : Form RuleEntry := Form.fields "RuleConfig" ruleKeys setAction {}

/-- The keys of an instance. -/
def instanceKeys : List String := ["args", "alias"]

/-- Set the part of an instance that a key gives. -/
def setInstance (key : String) (p : Place) (n : Node)
    (i : Option (List String) × Option String) :
    FormM (Option (List String) × Option String) :=
  if key = "args" then (texts p n).map fun x => (some x, i.2)
  else (text p n).map fun x => (i.1, some x)

/-- An instance: arguments and an alias. -/
def instanceEntry : Form (List String × String) := fun p n => do
  let (arguments, aliasName) ←
    Form.fields "InstanceConfig" instanceKeys setInstance (none, none) p n
  pure (← Form.required p "args" arguments, ← Form.required p "alias" aliasName)

/-- The keys of a group of instances. -/
def groupKeys : List String := ["template", "instances"]

/-- Set the part of a group that a key gives. -/
def setGroup (key : String) (p : Place) (n : Node)
    (g : Option String × Option (List (List String × String))) :
    FormM (Option String × Option (List (List String × String))) :=
  if key = "template" then (text p n).map fun x => (some x, g.2)
  else (Form.list instanceEntry p n).map fun x => (g.1, some x)

/-- The instances of a template. -/
def templateGroup : Form TemplateGroup := fun p n => do
  let (template, instances) ← Form.fields "TemplateConfig" groupKeys setGroup (none, none) p n
  pure ⟨← Form.required p "template" template, ← Form.required p "instances" instances⟩

/-- Set the header option of a key. -/
def setOption (key : String) (p : Place) (n : Node) (o : HeaderOptions) :
    FormM HeaderOptions :=
  if key = "namespace" then (texts p n).map fun x => { o with scopes := x }
  else if key = "probe_fn" then (text p n).map fun x => { o with probeFunction := x }
  else if key = "include_style" then (includeStyle p n).map fun x => { o with includeStyle := x }
  else (aliasStyle p n).map fun x => { o with aliasStyle := x }

/-- The options of the header. -/
def headerForm : Form HeaderOptions :=
  Form.fields "HeaderOptions" HeaderOptions.keys setOption {}

/-- The keys of the output. -/
def outputKeys : List String := ["header", "artifacts"]

/-- Set the output path of a key. -/
def setOutput (key : String) (p : Place) (n : Node) (o : OutputPaths) : FormM OutputPaths :=
  if key = "header" then (Form.optional path p n).map fun x => { o with header := x }
  else (Form.optional path p n).map fun x => { o with artifacts := x }

/-! ## Configurations -/

/-- The keys of a configuration in the order in which messages list them. -/
def keys : List String :=
  ["module", "include_paths", "headers", "absolute_headers", "expose", "hide", "hide_access",
    "rules", "instantiations", "header", "output"]

/-- Set the part of a configuration that a key gives. -/
def set (key : String) (p : Place) (n : Node) (c : Configuration) : FormM Configuration :=
  if key = "module" then (text p n).map fun x => { c with moduleName := x }
  else if key = "include_paths" then
    (Form.list path p n).map fun x => { c with includePaths := x }
  else if key = "headers" then (texts p n).map fun x => { c with headers := x }
  else if key = "absolute_headers" then
    (Form.boolean p n).map fun x => { c with absoluteHeaders := x }
  else if key = "expose" then Form.fields "ExposeConfig" exposeKeys setExposed c p n
  else if key = "hide" then (texts p n).map fun x => { c with hidden := x }
  else if key = "hide_access" then
    (Form.optional (Form.list access) p n).map fun x => { c with hiddenAccess := x }
  else if key = "rules" then
    (Form.optional (Form.list ruleEntry) p n).map fun x => { c with rules := x }
  else if key = "instantiations" then
    (Form.list templateGroup p n).map fun x => { c with instantiations := x }
  else if key = "header" then (headerForm p n).map fun x => { c with headerOptions := x }
  else
    (Form.fields "OutputConfig" outputKeys setOutput {} p n).map fun x => { c with output := x }

/-- A configuration. -/
def form : Form Configuration := Form.fields "BindConfig" keys set {}

/-- Read a configuration; its paths start at the working directory. -/
def ofText (source : String) : Except Fault Configuration := Form.read form source

end Exposure.Configuration
