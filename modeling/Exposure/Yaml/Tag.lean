import Exposure.Text.Bytes

/-!
# Tags

A tag names the type of a node.  It is a sequence of bytes, since its escapes may stand for bytes
that are no text.  A tag that starts with an exclamation mark is one of the document's own and may
stand for a keyword; the standard types have tags of their own.
-/

namespace Exposure.Yaml

/-- A tag. -/
abbrev Tag := List UInt8

namespace Tag

/-- The tag that a text is. -/
def ofText (s : String) : Tag := Text.bytes s

/-- The bytes of a tag up to the first zero, which ends it. -/
def cut (t : Tag) : Tag := t.takeWhile (· ≠ 0)

/-- The exclamation mark that a tag of the document's own starts with. -/
def mark : UInt8 := 33

/-- Whether a tag is one of the document's own. -/
def isOwn (t : Tag) : Bool := t.head? = some mark

/-- The keyword that a tag of the document's own stands for: what follows the mark, or the mark when
nothing follows. -/
def keyword? (t : Tag) : Option String :=
  if t.isOwn then Text.ofBytes? (if t.length = 1 then t else t.drop 1) else none

/-- What the tags of the standard types start with. -/
def standard : Tag := ofText "tag:yaml.org,2002:"

/-- The tag of booleans. -/
def boolean : Tag := standard ++ ofText "bool"

/-- The tag of integers. -/
def integer : Tag := standard ++ ofText "int"

/-- The tag of decimal numbers. -/
def decimal : Tag := standard ++ ofText "float"

/-- The tag of nothing. -/
def nothing : Tag := standard ++ ofText "null"

/-- A cut tag is not cut again. -/
@[simp] theorem cut_cut (t : Tag) : t.cut.cut = t.cut := by
  induction t with
  | nil => rfl
  | cons b bs ih => by_cases h : b = 0 <;> simp_all [cut]

/-- The mark alone stands for itself. -/
example : keyword? (ofText "!") = some "!" := by decide +kernel

/-- A tag of the document's own stands for what follows the mark. -/
example : keyword? (ofText "!a") = some "a" := by decide +kernel

/-- The tag of a standard type stands for no keyword. -/
example : keyword? boolean = none := by decide +kernel

end Tag

end Exposure.Yaml
