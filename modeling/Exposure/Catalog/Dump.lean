import Exposure.Catalog.Record
import Exposure.Json.Read
import Exposure.Json.Value
import Exposure.Json.Written

/-!
# Dumps of catalogs

A dump is a JSON object with the records of a catalog under `entities`.  A record has a name and a
kind; its access level is left out when there is none, and its scope, given by name, when nothing
encloses it.  A structure may also be given as the list of its fields.  Unknown keys are passed
over.
-/

namespace Exposure

open Document (Mismatch)
open Json (Fault Step Position)

/-! ## Writing -/

/-- The document of a record. -/
def EntityRecord.toTree (r : EntityRecord) : Json.Tree :=
  .object ([("name", .text r.name.display), ("kind", .text r.kind.keyword),
    ("access", .text r.access.keyword)] ++
    (r.scope.map fun q => ("scope", Json.Tree.text q.display)).toList)

/-- The document of a catalog. -/
def Catalog.toTree (c : Catalog) : Json.Tree :=
  .object [("entities", .list (c.toRecords.map EntityRecord.toTree))]

/-- The dump of a catalog, on one line. -/
def Catalog.dump (c : Catalog) : String := c.toTree.compact

namespace Dump

/-! ## Reading a text -/

/-- The fields of a record that have been read; a scope may have been given as none. -/
structure Fields where
  name : Option QualifiedName := none
  kind : Option EntityKind := none
  access : Option Access := none
  scope : Option (Option QualifiedName) := none

/-- The name of a record in messages. -/
def recordForm : String := "struct EntityRecord"

/-- The list of the fields of a record in messages. -/
def recordFields : String := "struct EntityRecord with 4 elements"

/-- The name of a dump in messages. -/
def dumpForm : String := "struct CatalogDump"

/-- The list of the fields of a dump in messages. -/
def dumpFields : String := "struct CatalogDump with 1 element"

/-- Read a name. -/
def name (cs : List Char) : Step QualifiedName :=
  (Json.text "a string" cs).map fun r => (.parse r.1, r.2)

/-- Read a kind. -/
def kind : List Char → Step EntityKind :=
  Json.choice EntityKind.ofKeyword? (EntityKind.all.map EntityKind.keyword)

/-- Read an access level. -/
def access : List Char → Step Access :=
  Json.choice Access.ofKeyword? (Access.all.map Access.keyword)

/-- Read the value of a key of a record. -/
def recordEntry (key : String) (f : Fields) (cs : List Char) : Step Fields :=
  if key = "name" then
    (Json.once "name" f.name name cs).map fun r => ({ f with name := r.1 }, r.2)
  else if key = "kind" then
    (Json.once "kind" f.kind kind cs).map fun r => ({ f with kind := r.1 }, r.2)
  else if key = "access" then
    (Json.once "access" f.access access cs).map fun r => ({ f with access := r.1 }, r.2)
  else if key = "scope" then
    (Json.once "scope" f.scope (Json.optional name) cs).map fun r => ({ f with scope := r.1 }, r.2)
  else
    (Json.skipEntry cs).map (f, ·)

/-- Read the entries of a record. -/
def recordObject (cs : List Char) : Except Fault (EntityRecord × List Char) := do
  let (f, rest) ← Json.entries recordEntry (cs.length + 1) true {} cs
  let name ← Json.required "name" f.name rest
  let kind ← Json.required "kind" f.kind rest
  pure (⟨name, kind, f.access.getD .notApplicable, f.scope.getD none⟩, rest)

/-- Read the fields of a record in their order. -/
def recordList (cs : List Char) : Except Fault (EntityRecord × List Char) := do
  let (name?, rest) ← Json.nextField name true cs
  let name ← Json.fieldOf 0 recordFields name? rest
  let (kind?, rest) ← Json.nextField kind false rest
  let kind ← Json.fieldOf 1 recordFields kind? rest
  let (access?, rest) ← Json.nextField access false rest
  let (scope?, rest) ← Json.nextField (Json.optional Dump.name) false rest
  pure (⟨name, kind, access?.getD .notApplicable, scope?.getD none⟩, rest)

/-- Read a record. -/
def record : List Char → Step EntityRecord := Json.structure? recordForm recordObject recordList

/-- Read the value of a key of a dump. -/
def dumpEntry (key : String) (old : Option (List EntityRecord)) (cs : List Char) :
    Step (Option (List EntityRecord)) :=
  if key = "entities" then Json.once "entities" old (Json.list record) cs
  else (Json.skipEntry cs).map (old, ·)

/-- Read the entries of a dump. -/
def dumpObject (cs : List Char) : Except Fault (List EntityRecord × List Char) := do
  let (records?, rest) ← Json.entries dumpEntry (cs.length + 1) true none cs
  let records ← Json.required "entities" records? rest
  pure (records, rest)

/-- Read the fields of a dump in their order. -/
def dumpList (cs : List Char) : Except Fault (List EntityRecord × List Char) := do
  let (records?, rest) ← Json.nextField (Json.list record) true cs
  let records ← Json.fieldOf 0 dumpFields records? rest
  pure (records, rest)

/-- Read the records of a dump; what follows them is left. -/
def records : List Char → Step (List EntityRecord) := Json.structure? dumpForm dumpObject dumpList

/-! ## Failures of a dump -/

/-- Why a dump is no catalog. -/
inductive Failure where
  /-- The text is no dump. -/
  | form (problem : Json.Problem) (position : Position)
  /-- The records make no catalog. -/
  | content (error : CatalogError)
deriving DecidableEq, Repr

/-- The digits at the front of a text, as a number of at most 64 bits. -/
def leadingNumber? (cs : List Char) : Option Nat :=
  let digits := cs.takeWhile Char.isDigit
  let n := digits.foldl (fun n c => n * 10 + Json.digit c) 0
  if digits.isEmpty || 1 <<< 64 ≤ n then none else some n

/-- What follows a text at the front of another one. -/
def after? : List Char → List Char → Option (List Char)
  | [], cs => some cs
  | _ :: _, [] => none
  | p :: ps, c :: cs => if p = c then after? ps cs else none

/-- The place that a whole text names. -/
def place? (cs : List Char) : Option Position := do
  let rest ← after? " at line ".toList cs
  let line ← leadingNumber? rest
  let rest ← after? " column ".toList (Json.skipDigits rest)
  let column ← leadingNumber? rest
  if (Json.skipDigits rest).isEmpty then some ⟨line, column⟩ else none

/-- Split a text that ends by naming a place; the place is the last that could start. -/
def splitPlace? : List Char → Option (List Char × Position)
  | [] => none
  | c :: cs =>
      match splitPlace? cs with
      | some (before, p) => some (c :: before, p)
      | none => (place? (c :: cs)).map fun p => ([], p)

/-- The text of a failure and its place.  The text of a refused record is taken for one with a place
when it ends by naming one; the place is written anew, and one without a line is not shown. -/
def Failure.report : Failure → String × Position
  | form problem position => (problem.message ++ position.suffix, position)
  | content error =>
      match splitPlace? error.message.toList with
      | some (before, p) =>
          (String.ofList before ++ (if p.line = 0 then "" else p.suffix), p)
      | none => (error.message, ⟨0, 0⟩)

/-- Put a fault at its place in the text. -/
def Failure.ofFault (text : String) : Fault → Failure
  | .placed problem left => .form problem (.ofLeft text left)
  | .pending problem rest => .form problem (.ofLeft text (Text.byteLength rest))

/-- The catalog of a dump.  The records are added before anything behind them is looked at. -/
def read (text : String) : Except Failure Catalog :=
  match records text.toList with
  | .error e => .error (.ofFault text e)
  | .ok (rs, rest) =>
      match Catalog.ofRecords rs with
      | .error e => .error (.content e)
      | .ok c =>
          match Json.atEnd rest with
          | .error e => .error (.ofFault text e)
          | .ok () => .ok c

/-! ## Reading a value -/

/-- The name that a value is. -/
def nameOf (v : Json.Value) : Except Mismatch QualifiedName := v.asText.map .parse

/-- The kind that a value is. -/
def kindOf : Json.Value → Except Mismatch EntityKind :=
  Json.Value.asChoice EntityKind.ofKeyword? (EntityKind.all.map EntityKind.keyword)

/-- The access level that a value is. -/
def accessOf : Json.Value → Except Mismatch Access :=
  Json.Value.asChoice Access.ofKeyword? (Access.all.map Access.keyword)

/-- Read the value of a key of a record. -/
def setField (f : Fields) (entry : String × Json.Value) : Except Mismatch Fields :=
  let (key, v) := entry
  if key = "name" then (nameOf v).map fun x => { f with name := x }
  else if key = "kind" then (kindOf v).map fun x => { f with kind := x }
  else if key = "access" then (accessOf v).map fun x => { f with access := x }
  else if key = "scope" then (v.asOptional nameOf).map fun x => { f with scope := x }
  else .ok f

/-- The record that a value is. -/
def recordOf : Json.Value → Except Mismatch EntityRecord
  | .object entries => do
      let f ← entries.foldlM setField {}
      let name ← Json.Value.required "name" f.name
      let kind ← Json.Value.required "kind" f.kind
      pure ⟨name, kind, f.access.getD .notApplicable, f.scope.getD none⟩
  | .array items => do
      let name? ← items[0]?.mapM nameOf
      let name ← Json.Value.requiredAt 0 recordFields name?
      let kind? ← items[1]?.mapM kindOf
      let kind ← Json.Value.requiredAt 1 recordFields kind?
      let access? ← items[2]?.mapM accessOf
      let scope? ← items[3]?.mapM fun v => v.asOptional nameOf
      Json.Value.noneLeft items.length 4
      pure ⟨name, kind, access?.getD .notApplicable, scope?.getD none⟩
  | v => .error (v.refuse recordForm)

/-- The records that a value is. -/
def recordsOf : Json.Value → Except Mismatch (List EntityRecord)
  | .object entries => do
      let records? ← entries.foldlM
        (fun old entry =>
          if entry.1 = "entities" then (entry.2.asList recordOf).map some else .ok old) none
      Json.Value.required "entities" records?
  | .array items => do
      let records? ← items[0]?.mapM fun v => v.asList recordOf
      let records ← Json.Value.requiredAt 0 dumpFields records?
      Json.Value.noneLeft items.length 1
      pure records
  | v => .error (v.refuse dumpForm)

/-- The catalog that a value is, or the text of what is wrong. -/
def ofValue (v : Json.Value) : Except String Catalog :=
  match recordsOf v with
  | .error e => .error (e.message "null")
  | .ok rs =>
      match Catalog.ofRecords rs with
      | .error e => .error (Failure.content e).report.1
      | .ok c => .ok c

end Dump

end Exposure
