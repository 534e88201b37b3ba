import Exposure.ConfigurationError
import Exposure.Text.Blank

/-!
# Tables of template instantiations

Each row of a table asks for one instantiation of a template under an alias.  A table is checked row
by row before anything is made of it, and the first fault is reported.
-/

namespace Exposure

/-- A request to instantiate a template under an alias. -/
structure Instantiation where
  generic : String
  arguments : List String
  aliasName : String
deriving DecidableEq, Repr

/-- Whether a character may start an identifier. -/
def isIdentifierStart (c : Char) : Bool := c.isAlpha || c = '_'

/-- Whether a character may stand in an identifier. -/
def isIdentifierRest (c : Char) : Bool := c.isAlphanum || c = '_'

/-- Whether a text is an identifier of the basic Latin letters, the digits and the low line. -/
def isIdentifier (s : String) : Bool :=
  match s.toList with
  | [] => false
  | c :: cs => isIdentifierStart c && cs.all isIdentifierRest

namespace Instantiation

/-- The trimmed arguments, with a comma and a space between them. -/
def argumentText (r : Instantiation) : String :=
  ", ".intercalate (r.arguments.map Text.trim)

/-- What separates the arguments from the closing bracket: a space when they end with a bracket. -/
def closingPad (args : String) : String :=
  if args.toList.getLast? = some '>' then " " else ""

/-- The text of the instantiated type. -/
def typeText (r : Instantiation) : String :=
  let args := r.argumentText
  Text.trim r.generic ++ "<" ++ args ++ closingPad args ++ ">"

/-- What is wrong with a row by itself, if anything is. -/
def fault? (r : Instantiation) : Option ConfigurationError :=
  if Text.blank r.generic then
    some (.missingGeneric r.aliasName)
  else if r.arguments.all Text.blank then
    some (.emptyArgumentList r.generic r.aliasName)
  else
    match r.arguments.findIdx? Text.blank with
    | some position => some (.blankArgument r.generic r.aliasName position)
    | none => if isIdentifier r.aliasName then none else some (.invalidAlias r.aliasName)

end Instantiation

/-- A row for each instance of a template: the argument lists and aliases asked for. -/
structure TemplateGroup where
  template : String
  instances : List (List String × String)
deriving DecidableEq, Repr

/-- The requested instantiations, in their order. -/
structure InstantiationTable where
  rows : List Instantiation
deriving DecidableEq, Repr

namespace InstantiationTable

/-- The table of the instances of several templates, in their order. -/
def ofGroups (gs : List TemplateGroup) : InstantiationTable :=
  ⟨gs.flatMap fun g => g.instances.map fun i => ⟨g.template, i.1, i.2⟩⟩

/-- The number of rows. -/
def size (t : InstantiationTable) : Nat := t.rows.length

/-- Whether there are no rows. -/
def isEmpty (t : InstantiationTable) : Bool := t.rows.isEmpty

/-- The aliases, in their order. -/
def aliases (t : InstantiationTable) : List String := t.rows.map Instantiation.aliasName

/-- The texts of the instantiated types, in their order. -/
def typeTexts (t : InstantiationTable) : List String := t.rows.map Instantiation.typeText

/-- Check rows that stand after others, whose aliases they may not repeat. -/
def checkAfter (earlier : List Instantiation) :
    List Instantiation → Except ConfigurationError Unit
  | [] => .ok ()
  | r :: rs =>
      match r.fault? with
      | some e => .error e
      | none =>
          match earlier.find? (·.aliasName = r.aliasName) with
          | some first => .error (.duplicateAlias r.aliasName first.generic r.generic)
          | none => checkAfter (earlier ++ [r]) rs

/-- Check a table. -/
def validate (t : InstantiationTable) : Except ConfigurationError Unit := checkAfter [] t.rows

@[simp] theorem length_aliases (t : InstantiationTable) : t.aliases.length = t.size := by
  simp [aliases, size]

@[simp] theorem length_typeTexts (t : InstantiationTable) : t.typeTexts.length = t.size := by
  simp [typeTexts, size]

end InstantiationTable

end Exposure
