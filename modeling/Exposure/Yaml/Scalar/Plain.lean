import Exposure.Yaml.Scalar.Gap

/-!
# Plain scalars

A plain scalar ends in front of a colon that a blank follows, of a comment, of an indicator of the
flow collection that it is in, and of a line that is not indented enough.
-/

namespace Exposure.Yaml

/-- The characters that end a plain scalar in a flow collection. -/
def isFlowIndicator (c : Char) : Bool :=
  c = ',' || c = '[' || c = ']' || c = '\x7b' || c = '\x7d'

namespace Plain

/-- The characters of a plain scalar up to its end or a gap. -/
def word (inFlow : Bool) : List Char → Except SyntaxError (List Char)
  | [] => .ok []
  | c :: cs =>
      if isBlank c || isBreak c then .ok []
      else if c = ':' && inFlow && cs.head?.any (fun d => isFlowIndicator d || d = '?') then
        .error .colonInFlow
      else if (c = ':' && endsWord cs) || (inFlow && isFlowIndicator c) then .ok []
      else (word inFlow cs).map (c :: ·)

/-- A plain scalar that has been read: its text, whether it ended behind a line break, and the place
behind it. -/
structure Result where
  text : List Char
  broken : Bool
  cursor : Cursor
deriving DecidableEq, Repr

/-- Read on behind some text and a gap, for at most so many words. -/
def readWords (inFlow : Bool) (indent : Int) :
    Nat → List Char → Gap → Cursor → Except SyntaxError Result
  | 0, text, gap, c => .ok ⟨text, gap.broken, c⟩
  | n + 1, text, gap, c =>
      if c.atDocumentMark || startsWith '#' c.rest then .ok ⟨text, gap.broken, c⟩
      else do
        let w ← word inFlow c.rest
        if w.isEmpty then pure ⟨text, gap.broken, c⟩
        else
          let text := text ++ gap.text ++ w
          let c := c.skip w.length
          let (gap, c) ← Gap.read indent {} c
          if ! inFlow && (c.column : Int) < indent then pure ⟨text, gap.broken, c⟩
          else readWords inFlow indent n text gap c

/-- Read a plain scalar whose later lines must be indented by so many columns. -/
def read (inFlow : Bool) (indent : Int) (c : Cursor) : Except SyntaxError Result :=
  readWords inFlow indent (c.rest.length + 1) [] {} c

end Plain

end Exposure.Yaml
