import Exposure.Json.Lexeme

/-!
# Values that are passed over

The value of an unknown key is passed over.  It must be well formed, but its numbers may be of any
size and its strings may hold unpaired surrogates.  The open brackets are kept in a list, so depth
has no bound.
-/

namespace Exposure.Json

/-- Pass over what stands behind a backslash. -/
def skipEscape (cs : List Char) : Except Fault (Shorter cs) :=
  match cs with
  | [] => .error (.before .endInString [])
  | c :: rest =>
      if (shortEscape? c).isSome then .ok ⟨rest, Nat.lt_succ_self rest.length⟩
      else if c = 'u' then
        match hexNumber rest with
        | .error e => .error e
        | .ok (_, ⟨left, h⟩) => .ok ⟨left, Nat.lt_succ_of_lt h⟩
      else .error (.atNext .invalidEscape (c :: rest))

/-- Pass over a string whose opening quote has been read. -/
def skipString (cs : List Char) : Except Fault (List Char) :=
  match cs with
  | [] => .error (.before .endInString [])
  | c :: rest =>
      if c = '"' then .ok rest
      else if c = '\\' then
        match skipEscape rest with
        | .error e => .error e
        | .ok ⟨left, _⟩ => skipString left
      else if c.toNat < 0x20 then .error (.before .controlCharacter (c :: rest))
      else skipString rest
termination_by cs.length
decreasing_by all_goals simp_all; try omega

/-- Pass over an exponent whose letter has been read. -/
def skipExponent (cs : List Char) : Except Fault (List Char) :=
  let cs :=
    match cs with
    | '+' :: rest => rest
    | '-' :: rest => rest
    | rest => rest
  if startsWithDigit cs then .ok (skipDigits cs) else .error (.atNext .invalidNumber cs)

/-- Pass over an exponent if one follows. -/
def skipExponentOrEnd (cs : List Char) : Except Fault (List Char) :=
  match cs with
  | 'e' :: rest => skipExponent rest
  | 'E' :: rest => skipExponent rest
  | rest => .ok rest

/-- Pass over a number whose sign has been read. -/
def skipNumber (cs : List Char) : Except Fault (List Char) :=
  match cs with
  | [] => .error (.atNext .invalidNumber [])
  | c :: rest =>
      if c = '0' && startsWithDigit rest then .error (.atNext .invalidNumber rest)
      else if c.isDigit then
        match (if c = '0' then rest else skipDigits rest) with
        | '.' :: left =>
            if startsWithDigit left then skipExponentOrEnd (skipDigits left)
            else .error (.atNext .invalidNumber left)
        | left => skipExponentOrEnd left
      else .error (.atNext .invalidNumber (c :: rest))

/-- An open bracket. -/
inductive Frame where
  | list
  | object
deriving DecidableEq, Repr

/-- The closing bracket. -/
def Frame.close : Frame → Char
  | list => ']'
  | object => '\x7d'

/-- What is wrong when neither a comma nor the closing bracket follows. -/
def Frame.expectedEnd : Frame → Problem
  | list => .expectedListEnd
  | object => .expectedObjectEnd

/-- What is wrong when nothing follows. -/
def Frame.ended : Frame → Problem
  | list => .endInList
  | object => .endInObject

/-- What passing over a value comes to next. -/
inductive Pending where
  /-- A value has to be read inside of the open brackets. -/
  | value (frames : List Frame)
  /-- A value has been read inside of the open brackets. -/
  | after (frames : List Frame)
  /-- The innermost bracket has just been opened. -/
  | opened (frame : Frame) (frames : List Frame)
  /-- A key has to be read before the value. -/
  | key (frames : List Frame)
deriving DecidableEq, Repr

/-- Pass over the lexeme at the front of a value. -/
def skipScalarOrOpen (frames : List Frame) (cs : List Char) :
    Except Fault (Pending × List Char) :=
  match cs with
  | [] => .error (.atNext .endInValue [])
  | 'n' :: rest => (word "ull".toList rest).map (.after frames, ·)
  | 't' :: rest => (word "rue".toList rest).map (.after frames, ·)
  | 'f' :: rest => (word "alse".toList rest).map (.after frames, ·)
  | '-' :: rest => (skipNumber rest).map (.after frames, ·)
  | '"' :: rest => (skipString rest).map (.after frames, ·)
  | '[' :: rest => .ok (.opened .list frames, rest)
  | '\x7b' :: rest => .ok (.opened .object frames, rest)
  | c :: rest =>
      if c.isDigit then (skipNumber (c :: rest)).map (.after frames, ·)
      else .error (.atNext .expectedValue (c :: rest))

/-- What comes next inside of a bracket: a value, with a key before it in an object. -/
def Frame.next (f : Frame) (frames : List Frame) : Pending :=
  match f with
  | .list => .value (.list :: frames)
  | .object => .key (.object :: frames)

/-- Pass over a key and its colon. -/
def skipKey (frames : List Frame) (cs : List Char) : Except Fault (Pending × List Char) :=
  match cs with
  | [] => .error (.atNext .endInObject [])
  | '"' :: rest =>
      match skipString rest with
      | .error e => .error e
      | .ok rest =>
          match skipBlanks rest with
          | [] => .error (.atNext .endInObject [])
          | ':' :: left => .ok (.value frames, left)
          | left => .error (.atNext .expectedColon left)
  | rest => .error (.atNext .keyNotString rest)

/-- One step of passing over a value, at a character that is no blank. -/
def Pending.step : Pending → List Char → Except Fault (Pending × List Char)
  | value frames, cs => skipScalarOrOpen frames cs
  | key frames, cs => skipKey frames cs
  | opened f frames, cs =>
      match cs with
      | [] => .error (.atNext f.ended [])
      | c :: rest =>
          if c = f.close then .ok (.after frames, rest) else .ok (f.next frames, c :: rest)
  | after [], cs => .ok (.after [], cs)
  | after (f :: frames), cs =>
      match cs with
      | [] => .error (.atNext f.ended [])
      | c :: rest =>
          if c = ',' then .ok (f.next frames, rest)
          else if c = f.close then .ok (.after frames, rest)
          else .error (.atNext f.expectedEnd (c :: rest))

/-- Pass over a value in at most so many steps. -/
def skipSteps : Nat → Pending → List Char → Except Fault (List Char)
  | _, .after [], cs => .ok cs
  | 0, _, cs => .ok cs
  | n + 1, p, cs =>
      match p.step (skipBlanks cs) with
      | .error e => .error e
      | .ok (p, rest) => skipSteps n p rest

/-- Pass over a value.  A step that reads nothing is followed by one that does, so twice the length
of the text is enough. -/
def skipValue (cs : List Char) : Except Fault (List Char) :=
  skipSteps (2 * cs.length + 2) (.value []) cs

end Exposure.Json
