import Exposure.Instantiation.Header
import Exposure.Json.Value

/-!
# Header options as a JSON value

The options are an object whose keys may all be left out, or the list of the options in their order,
which may be cut short.  An option that is left out keeps its default; an unknown key is refused.
-/

namespace Exposure.HeaderOptions

open Document (Mismatch)
open Json (Value)

/-- The name of the options in messages. -/
def form : String := "struct HeaderOptions"

/-- The keys of the options in the order in which messages list them. -/
def keys : List String := ["namespace", "probe_fn", "include_style", "alias_style"]

/-- The include style that a value is. -/
def includeStyleOf : Value → Except Mismatch IncludeStyle :=
  Value.asChoice IncludeStyle.ofKeyword? (IncludeStyle.all.map IncludeStyle.keyword)

/-- The alias style that a value is. -/
def aliasStyleOf : Value → Except Mismatch AliasStyle :=
  Value.asChoice AliasStyle.ofKeyword? (AliasStyle.all.map AliasStyle.keyword)

/-- Set the option of a key. -/
def set (o : HeaderOptions) (key : String) (v : Value) : Except Mismatch HeaderOptions :=
  if key = "namespace" then (v.asList Value.asText).map fun x => { o with scopes := x }
  else if key = "probe_fn" then v.asText.map fun x => { o with probeFunction := x }
  else if key = "include_style" then
    (includeStyleOf v).map fun x => { o with includeStyle := x }
  else if key = "alias_style" then (aliasStyleOf v).map fun x => { o with aliasStyle := x }
  else .error (.unknownField key keys)

/-- The options that a value is. -/
def ofValue : Value → Except Mismatch HeaderOptions
  | .object entries => entries.foldlM (fun o entry => o.set entry.1 entry.2) {}
  | .array items => do
      let o ← (keys.zip items).foldlM (fun o entry => o.set entry.1 entry.2) {}
      Value.noneLeft items.length keys.length
      pure o
  | v => .error (v.refuse form)

end Exposure.HeaderOptions
