import Exposure.Yaml.Scalar.Block
import Exposure.Yaml.Scalar.Plain
import Exposure.Yaml.Scalar.Quoted
import Exposure.Yaml.Token.Layout
import Exposure.Yaml.Token.Property

/-!
# The tokens of a text

A text is read token by token up to its end, and the first character decides what the next token
is.
-/

namespace Exposure.Yaml

namespace Layout

/-- Leave all blocks, in front of a token at the outermost level. -/
def leaveBlocks (l : Layout) : Except SyntaxError Layout := do
  let l ← (l.closeBlocks (-1)).dropKey
  pure (l.allowKey false)

/-- Open a flow collection. -/
def openFlow (l : Layout) (t : Token) : Except SyntaxError Layout := do
  let l ← l.noteKey
  let l := { l with possible := none, outerKeys := l.possible :: l.outerKeys }
  pure ((l.allowKey true).indicator 1 t)

/-- Close a flow collection, if one is open. -/
def closeFlow (l : Layout) (t : Token) : Except SyntaxError Layout := do
  let l ← l.dropKey
  let l := match l.outerKeys with
    | k :: ks => { l with possible := k, outerKeys := ks }
    | [] => l
  pure ((l.allowKey false).indicator 1 t)

/-- A comma between the entries of a flow collection. -/
def flowEntry (l : Layout) : Except SyntaxError Layout := do
  let l ← l.dropKey
  pure ((l.allowKey true).indicator 1 .flowEntry)

/-- A dash in front of an entry of a block sequence. -/
def blockEntry (l : Layout) : Except SyntaxError Layout := do
  if ! l.inFlow && ! l.keyAllowed then throw .misplacedEntry
  let l ← (l.openBlock l.cursor.column (·.push .blockSequenceStart)).dropKey
  pure ((l.allowKey true).indicator 1 .blockEntry)

/-- A question mark in front of a key. -/
def explicitKey (l : Layout) : Except SyntaxError Layout := do
  if ! l.inFlow && ! l.keyAllowed then throw .misplacedKey
  let l ← (l.openBlock l.cursor.column (·.push .blockMappingStart)).dropKey
  pure ((l.allowKey (! l.inFlow)).indicator 1 .key)

/-- A colon in front of a value: what was possibly a key is one now. -/
def colon (l : Layout) : Except SyntaxError Layout :=
  match l.possible with
  | some k =>
      let l := (l.insert k.number .key).openBlock k.column (·.insert k.number .blockMappingStart)
      .ok (({ l with possible := none }.allowKey false).indicator 1 .value)
  | none =>
      if ! l.inFlow && ! l.keyAllowed then .error .misplacedValue
      else
        let l' := l.openBlock l.cursor.column (·.push .blockMappingStart)
        .ok ((l'.allowKey (! l.inFlow)).indicator 1 .value)

/-- A token that may be a key, given by its reader. -/
def keyLike (l : Layout) (read : Cursor → Except SyntaxError (Token × Cursor)) :
    Except SyntaxError Layout := do
  let l ← l.noteKey
  let (t, c) ← read l.cursor
  pure (((l.allowKey false).moved c).push t)

/-- A block scalar. -/
def blockScalar (l : Layout) (style : ScalarStyle) : Except SyntaxError Layout := do
  let l ← l.dropKey
  let (text, c) ← Block.read (style = .literal) l.indent l.cursor
  pure (((l.allowKey true).moved c).push (.scalar style (String.ofList text)))

/-- A plain scalar; behind a line break a key may follow. -/
def plainScalar (l : Layout) : Except SyntaxError Layout := do
  let l ← l.noteKey
  let r ← Plain.read l.inFlow (l.indent + 1) l.cursor
  pure (((l.allowKey r.broken).moved r.cursor).push (.scalar .plain (String.ofList r.text)))

/-- The characters that start no plain scalar. -/
def isIndicator (c : Char) : Bool := "-?:,[]\x7b\x7d#&*!|>'\"%@`".toList.contains c

/-- Whether a plain scalar starts with a character in front of the given text. -/
def startsPlain (l : Layout) (c : Char) (rest : List Char) : Bool :=
  ! (isBlank c || isBreak c || isIndicator c) ||
    (c = '-' && ! rest.head?.any isBlank) ||
    (! l.inFlow && (c = '?' || c = ':') && ! endsWord rest)

/-- Read the token that starts with a character in front of the given text. -/
def readToken (l : Layout) (c : Char) (rest : List Char) : Except SyntaxError Layout :=
  if l.cursor.column = 0 && c = '%' then do
    let l ← l.leaveBlocks
    let (t, cursor) ← readDirective l.cursor
    pure ((l.moved cursor).push t)
  else if l.cursor.atDocumentMark then
    return (← l.leaveBlocks).indicator 3 (if c = '-' then .documentStart else .documentEnd)
  else if c = '[' then l.openFlow .flowSequenceStart
  else if c = '\x7b' then l.openFlow .flowMappingStart
  else if c = ']' then l.closeFlow .flowSequenceEnd
  else if c = '\x7d' then l.closeFlow .flowMappingEnd
  else if c = ',' then l.flowEntry
  else if c = '-' && endsWord rest then l.blockEntry
  else if c = '?' && (l.inFlow || endsWord rest) then l.explicitKey
  else if c = ':' && (l.inFlow || endsWord rest) then l.colon
  else if c = '*' then
    l.keyLike fun cursor =>
      (anchorName (cursor.skip 1)).map fun (name, cursor) => (.reference name, cursor)
  else if c = '&' then
    l.keyLike fun cursor =>
      (anchorName (cursor.skip 1)).map fun (name, cursor) => (.anchor name, cursor)
  else if c = '!' then l.keyLike fun cursor => readTag l.inFlow (cursor.skip 1)
  else if c = '|' && ! l.inFlow then l.blockScalar .literal
  else if c = '>' && ! l.inFlow then l.blockScalar .folded
  else if c = '\'' || c = '"' then
    l.keyLike fun cursor =>
      (Quoted.read (if c = '"' then .double else .single) cursor).map fun (text, cursor) =>
        (.scalar .quoted (String.ofList text), cursor)
  else if l.startsPlain c rest then l.plainScalar
  else .error .badStart

/-- Close everything at the end of the text. -/
def finish (l : Layout) : Except SyntaxError Layout := return (← l.leaveBlocks).push .streamEnd

/-- Read the next token, with the tokens that the layout implies. -/
def fetch (l : Layout) : Except SyntaxError Layout := do
  let l ← (skipGap (l.cursor.rest.length + 1) l).dropStale
  let l := l.closeBlocks l.cursor.column
  match l.cursor.rest with
  | [] => l.finish
  | c :: rest => l.readToken c rest

/-- Read all tokens, at most so many. -/
def fetchAll : Nat → Layout → Except SyntaxError Layout
  | 0, l => .ok l
  | n + 1, l => do
      let l ← l.fetch
      if l.tokens.head? = some .streamEnd then pure l else fetchAll n l

end Layout

/-- The tokens of a text; the last one is its end. -/
def tokens (text : String) : Except SyntaxError (List Token) := do
  let cs := text.toList
  if ! cs.all isPrintable then throw .badCharacter
  let l ← Layout.fetchAll (cs.length + 1) { cursor := .start cs }
  pure l.tokens.reverse

end Exposure.Yaml
