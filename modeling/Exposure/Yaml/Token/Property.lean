import Exposure.Text.Digit
import Exposure.Yaml.Cursor
import Exposure.Yaml.SyntaxError
import Exposure.Yaml.Token.Basic

/-!
# Anchors, tags and directives

The tokens that name something.  A tag is written in full between angle brackets, or as a handle and
a suffix; the suffix may escape bytes by a percent sign and two digits.
-/

namespace Exposure.Yaml

/-! ## Anchors -/

/-- Whether what follows may stand behind the name of an anchor. -/
def endsAnchor (cs : List Char) : Bool :=
  endsWord cs || cs.head?.any ("?:,]\x7d%@`".toList.contains ·)

/-- Read the name of an anchor or a reference behind its indicator. -/
def anchorName (c : Cursor) : Except SyntaxError (String × Cursor) :=
  let name := c.front isNameChar
  let c := c.skipWhile isNameChar
  if ! name.isEmpty && endsAnchor c.rest then .ok (String.ofList name, c) else .error .badAnchor

/-! ## Tags -/

/-- The characters of the text of a tag; a few more stand in a tag that is written in full. -/
def isTagChar (full : Bool) (c : Char) : Bool :=
  isNameChar c || ";/?:@&=+$.!~*'()".toList.contains c || (full && ",[]".toList.contains c)

/-- The byte that a percent sign and two digits escape. -/
def escapedByte? : List Char → Option UInt8
  | '%' :: a :: b :: _ => (Text.number? 16 [a, b]).map Nat.toUInt8
  | _ => none

/-- The number of bytes that a first byte announces behind it. -/
def laterBytes? (b : UInt8) : Option Nat :=
  if b < 0x80 then some 0
  else if b / 0x20 = 6 then some 1
  else if b / 0x10 = 14 then some 2
  else if b / 0x08 = 30 then some 3
  else none

/-- Read so many escaped bytes that may stand behind a first one. -/
def continueBytes? : Nat → List Char → Option (List UInt8)
  | 0, _ => some []
  | k + 1, cs => do
      let b ← escapedByte? cs
      guard (b / 0x40 = 2)
      pure (b :: (← continueBytes? k (cs.drop 3)))

/-- The escaped bytes at the front, as many as the first one announces. -/
def escapedBytes? (cs : List Char) : Option (List UInt8) := do
  let b ← escapedByte? cs
  pure (b :: (← continueBytes? (← laterBytes? b) (cs.drop 3)))

/-- Read the text of a tag, which may be empty. -/
def tagText (full : Bool) (c : Cursor) : Except SyntaxError (Tag × Cursor) :=
  match _ : c.rest with
  | [] => .ok ([], c)
  | d :: ds =>
      if d = '%' then
        match escapedBytes? (d :: ds) with
        | none => .error .badTag
        | some bs => do
            let (text, c) ← tagText full (c.skip (3 * (bs.length - 1) + 3))
            pure (bs ++ text, c)
      else if isTagChar full d then do
        let (text, c) ← tagText full (c.skip 1)
        pure (d.toUInt8 :: text, c)
      else .ok ([], c)
termination_by c.rest.length
decreasing_by all_goals simp_all; try omega

/-- Read a text of a tag that is not empty. -/
def nonemptyTagText (full : Bool) (c : Cursor) : Except SyntaxError (Tag × Cursor) := do
  let (text, c) ← tagText full c
  if text.isEmpty then throw .badTag else pure (text, c)

/-- Read a tag written in full, behind its opening bracket. -/
def fullTag (c : Cursor) : Except SyntaxError (Token × Cursor) := do
  let (text, c) ← nonemptyTagText true c
  if startsWith '>' c.rest then pure (.tag none text.cut, c.skip 1) else throw .badTag

/-- Read a tag that starts with a handle, behind its exclamation mark.  A name that a second mark
ends is a handle; otherwise it belongs to the suffix, and a mark alone is the whole tag. -/
def shortTag (c : Cursor) : Except SyntaxError (Token × Cursor) := do
  let name := String.ofList (c.front isNameChar)
  let c := c.skipWhile isNameChar
  if startsWith '!' c.rest then
    let (suffix, c) ← nonemptyTagText false (c.skip 1)
    pure (.tag (some ("!" ++ name ++ "!")) suffix.cut, c)
  else
    let (suffix, c) ← tagText false c
    let text := (Tag.ofText name ++ suffix).cut
    if text.isEmpty then pure (.tag none [Tag.mark], c) else pure (.tag (some "!") text, c)

/-- Read a tag behind its exclamation mark. -/
def readTag (inFlow : Bool) (c : Cursor) : Except SyntaxError (Token × Cursor) := do
  let (t, c) ← if startsWith '<' c.rest then fullTag (c.skip 1) else shortTag c
  if endsWord c.rest || (inFlow && startsWith ',' c.rest) then pure (t, c) else throw .badTag

/-! ## Directives -/

/-- Read a number of at most nine digits. -/
def versionNumber (c : Cursor) : Except SyntaxError (Nat × Cursor) :=
  let digits := c.front Char.isDigit
  match Text.number? 10 digits with
  | some n => if 9 < digits.length then .error .badDirective else .ok (n, c.skip digits.length)
  | none => .error .badDirective

/-- Read the version behind the name of its directive. -/
def versionDirective (c : Cursor) : Except SyntaxError (Token × Cursor) := do
  let (major, c) ← versionNumber (c.skipWhile isBlank)
  if startsWith '.' c.rest then
    let (minor, c) ← versionNumber (c.skip 1)
    pure (.versionDirective major minor, c)
  else throw .badDirective

/-- Read the handle of a directive, with the exclamation marks around it. -/
def directiveHandle (c : Cursor) : Except SyntaxError (String × Cursor) :=
  if startsWith '!' c.rest then
    let name := (c.skip 1).front isNameChar
    let c := (c.skip 1).skipWhile isNameChar
    if startsWith '!' c.rest then .ok ("!" ++ String.ofList name ++ "!", c.skip 1)
    else if name.isEmpty then .ok ("!", c)
    else .error .badDirective
  else .error .badDirective

/-- Read the handle of a tag and the text that it stands for, behind the name of their directive. -/
def tagDirective (c : Cursor) : Except SyntaxError (Token × Cursor) := do
  let (handle, c) ← directiveHandle (c.skipWhile isBlank)
  if c.rest.head?.any isBlank then
    let (text, c) ← nonemptyTagText true (c.skipWhile isBlank)
    if endsWord c.rest then pure (.tagDirective handle text.cut, c)
    else throw .badDirective
  else throw .badDirective

/-- Read a directive at its percent sign, with the line break behind it. -/
def readDirective (c : Cursor) : Except SyntaxError (Token × Cursor) := do
  let c := c.skip 1
  let name := c.front isNameChar
  let c := c.skipWhile isNameChar
  if name.isEmpty || ! endsWord c.rest then throw .badDirective
  let (t, c) ←
    if name = "YAML".toList then versionDirective c
    else if name = "TAG".toList then tagDirective c
    else throw .badDirective
  let c := c.skipComment
  if endsLine c.rest then pure (t, c.breakLine) else throw .badDirective

end Exposure.Yaml
