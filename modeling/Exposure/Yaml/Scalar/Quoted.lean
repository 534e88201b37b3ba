import Exposure.Text.Digit
import Exposure.Yaml.Scalar.Gap

/-!
# Quoted scalars

Between single quotes a quote is written twice and every other character stands for itself.  Between
double quotes a backslash starts an escape.  Both kinds are folded where they go on over several
lines.
-/

namespace Exposure.Yaml

namespace Quoted

/-- The two kinds of quotes. -/
inductive Quote where
  | single
  | double
deriving DecidableEq, Repr

/-- The character of a quote. -/
def Quote.char : Quote → Char
  | single => '\''
  | double => '"'

/-- The character that a letter behind a backslash stands for. -/
def shortEscape? (c : Char) : Option Char :=
  match c with
  | '0' => some '\x00'
  | 'a' => some '\x07'
  | 'b' => some '\x08'
  | 't' => some '\t'
  | '\t' => some '\t'
  | 'n' => some '\n'
  | 'v' => some '\x0b'
  | 'f' => some '\x0c'
  | 'r' => some '\r'
  | 'e' => some '\x1b'
  | ' ' => some ' '
  | '"' => some '"'
  | '/' => some '/'
  | '\\' => some '\\'
  | 'N' => some '\u0085'
  | '_' => some '\u00a0'
  | 'L' => some '\u2028'
  | 'P' => some '\u2029'
  | _ => none

/-- The number of digits behind a letter that starts a code. -/
def codeLength? (c : Char) : Option Nat :=
  match c with
  | 'x' => some 2
  | 'u' => some 4
  | 'U' => some 8
  | _ => none

/-- The character of a code of so many digits. -/
def codeChar? (count : Nat) (cs : List Char) : Option Char :=
  if cs.length < count then none
  else
    match Text.number? 16 (cs.take count) with
    | some n => if (0xd800 ≤ n && n ≤ 0xdfff) || 0x10ffff < n then none else some (Char.ofNat n)
    | none => none

/-- The character of an escape behind its backslash, and the number of characters behind the first
that belong to the escape. -/
def escape? : List Char → Option (Char × Nat)
  | [] => none
  | c :: cs =>
      match shortEscape? c, codeLength? c with
      | some d, _ => some (d, 0)
      | none, some count => (codeChar? count cs).map (·, count)
      | none, none => none

/-- Characters up to a gap or the closing quote: what they stand for, whether an escaped line break
ends them, and the place behind them. -/
def word (quote : Quote) (c : Cursor) : Except SyntaxError (List Char × Bool × Cursor) :=
  match _ : c.rest with
  | [] => .ok ([], false, c)
  | d :: ds =>
      if isBlank d || isBreak d then .ok ([], false, c)
      else if quote = .single && d = '\'' && startsWith '\'' ds then do
        let (text, continued, c) ← word quote (c.skip 2)
        pure ('\'' :: text, continued, c)
      else if d = quote.char then .ok ([], false, c)
      else if quote = .double && d = '\\' then
        if ds.head?.any isBreak then .ok ([], true, (c.skip 1).breakLine)
        else
          match escape? ds with
          | none => .error .badEscape
          | some (e, n) => do
              let (text, continued, c) ← word quote (c.skip (2 + n))
              pure (e :: text, continued, c)
      else do
        let (text, continued, c) ← word quote (c.skip 1)
        pure (d :: text, continued, c)
termination_by c.rest.length
decreasing_by all_goals simp_all; try omega

/-- Read on behind some text, for at most so many words. -/
def readWords (quote : Quote) :
    Nat → List Char → Cursor → Except SyntaxError (List Char × Cursor)
  | 0, _, _ => .error .unclosedString
  | n + 1, text, c =>
      if c.atDocumentMark || c.rest.isEmpty then .error .unclosedString
      else do
        let (w, continued, c) ← word quote c
        let text := text ++ w
        if startsWith quote.char c.rest then pure (text, c.skip 1)
        else
          let (gap, c) ← (if continued then Gap.continued else {}).read 0 c
          readWords quote n (text ++ gap.text) c

/-- Read a scalar at its opening quote: its text and the place behind the closing quote. -/
def read (quote : Quote) (c : Cursor) : Except SyntaxError (List Char × Cursor) :=
  readWords quote (c.rest.length + 1) [] (c.skip 1)

end Quoted

end Exposure.Yaml
