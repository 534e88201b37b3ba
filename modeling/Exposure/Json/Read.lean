import Exposure.Json.Skip

/-!
# Reading values of an expected form

Readers for texts, keywords, optional values, lists and objects.  A reader that finds a value of
another form reads past it where that is one lexeme, and then says what it found.  A list or object
is closed even after a value in it had the wrong form: the place of that fault is where closing
stopped.
-/

namespace Exposure.Json

open Document (Found Mismatch)

/-- A problem that a mismatch is. -/
def Problem.wrongType (found : Found) (expected : String) : Problem :=
  .mismatch (.invalidType found expected)

/-- Say that the value at the front is not of the expected form. -/
def refuse (expected : String) (cs : List Char) : Fault :=
  let placed (r : Step Found) : Fault :=
    match r with
    | .error e => e
    | .ok (found, rest) => .before (.wrongType found expected) rest
  match cs with
  | 'n' :: rest => placed ((word "ull".toList rest).map (.nothing, ·))
  | 't' :: rest => placed ((word "rue".toList rest).map (.boolean true, ·))
  | 'f' :: rest => placed ((word "alse".toList rest).map (.boolean false, ·))
  | '-' :: rest => placed (number false rest)
  | '"' :: rest => placed ((stringText rest).map fun r => (.string r.1, r.2))
  | '[' :: rest => .before (.wrongType .sequence expected) ('[' :: rest)
  | '\x7b' :: rest => .before (.wrongType .mapping expected) ('\x7b' :: rest)
  | c :: rest =>
      if c.isDigit then placed (number true (c :: rest))
      else .atNext .expectedValue (c :: rest)
  | [] => .atNext .expectedValue []

/-- Read a text where one is expected. -/
def text (expected : String) (cs : List Char) : Step String :=
  match skipBlanks cs with
  | [] => .error (.atNext .endInValue [])
  | '"' :: rest => stringText rest
  | rest => .error (refuse expected rest)

/-- Read nothing where nothing is expected. -/
def nothing (cs : List Char) : Except Fault (List Char) :=
  match skipBlanks cs with
  | [] => .error (.atNext .endInValue [])
  | 'n' :: rest => word "ull".toList rest
  | rest => .error (refuse "unit" rest)

/-- Read a key where one must stand; an object that ends there lacks a value. -/
def keyText (cs : List Char) : Step String :=
  match skipBlanks cs with
  | [] => .error (.atNext .endInObject [])
  | '"' :: rest => stringText rest
  | '\x7d' :: rest => .error (.atNext .expectedValue ('\x7d' :: rest))
  | rest => .error (.atNext .keyNotString rest)

/-- Read the colon behind a key. -/
def colon (cs : List Char) : Except Fault (List Char) :=
  match skipBlanks cs with
  | [] => .error (.atNext .endInObject [])
  | ':' :: rest => .ok rest
  | rest => .error (.atNext .expectedColon rest)

/-- The value of a keyword. -/
def keyword (ofKeyword? : String → Option α) (all : List String) (r : Step String) : Step α :=
  match r with
  | .error e => .error e
  | .ok (s, rest) =>
      match ofKeyword? s with
      | some a => .ok (a, rest)
      | none => .error (.before (.mismatch (.unknownVariant s all)) rest)

/-- Read one of several keywords, which is either a text or the only key of an object with nothing
under it. -/
def choice (ofKeyword? : String → Option α) (all : List String) (cs : List Char) :
    Except Fault (α × List Char) :=
  match skipBlanks cs with
  | [] => .error (.atNext .endInValue [])
  | '"' :: rest => keyword ofKeyword? all (stringText rest)
  | '\x7b' :: rest => do
      let (a, rest) ← keyword ofKeyword? all (keyText rest)
      let rest ← colon rest
      let rest ← nothing rest
      match skipBlanks rest with
      | [] => .error (.before .endInObject [])
      | '\x7d' :: rest => .ok (a, rest)
      | rest => .error (.before .expectedValue rest)
  | rest => .error (.atNext .expectedValue rest)

/-- Read an optional value. -/
def optional (read : List Char → Step α) (cs : List Char) : Step (Option α) :=
  match skipBlanks cs with
  | 'n' :: rest => (word "ull".toList rest).map (none, ·)
  | rest => (read rest).map fun r => (some r.1, r.2)

/-! ## Lists and objects -/

/-- Close a list. -/
def closeList (cs : List Char) : Except Fault (List Char) :=
  match skipBlanks cs with
  | ']' :: rest => .ok rest
  | ',' :: rest =>
      match skipBlanks rest with
      | ']' :: left => .error (.atNext .trailingComma (']' :: left))
      | left => .error (.atNext .trailingCharacters left)
  | [] => .error (.atNext .endInList [])
  | rest => .error (.atNext .trailingCharacters rest)

/-- What is left when closing a list has been tried. -/
def afterList (cs : List Char) : List Char :=
  match skipBlanks cs with
  | ']' :: rest => rest
  | ',' :: rest => skipBlanks rest
  | rest => rest

/-- Close an object. -/
def closeObject (cs : List Char) : Except Fault (List Char) :=
  match skipBlanks cs with
  | '\x7d' :: rest => .ok rest
  | ',' :: rest => .error (.atNext .trailingComma (',' :: rest))
  | [] => .error (.atNext .endInObject [])
  | rest => .error (.atNext .trailingCharacters rest)

/-- What is left when closing an object has been tried. -/
def afterObject (cs : List Char) : List Char :=
  match skipBlanks cs with
  | '\x7d' :: rest => rest
  | rest => rest

/-- Close what was opened before a value was read, and place a fault that has no place yet. -/
def closing (close : List Char → Except Fault (List Char)) (after : List Char → List Char)
    (r : Step α) : Step α :=
  match r with
  | .ok (a, rest) => (close rest).map (a, ·)
  | .error (.pending p rest) => .error (.before p (after rest))
  | .error (.placed p left) => .error (.placed p left)

/-- Whether another item of a list follows, and what is left in front of it. -/
def nextItem (first : Bool) (cs : List Char) : Step Bool :=
  match skipBlanks cs with
  | [] => .error (.atNext .endInList [])
  | ']' :: rest => .ok (false, ']' :: rest)
  | c :: rest =>
      if first then .ok (true, c :: rest)
      else if c = ',' then
        match skipBlanks rest with
        | ']' :: left => .error (.atNext .trailingComma (']' :: left))
        | [] => .error (.atNext .endInValue [])
        | left => .ok (true, left)
      else .error (.atNext .expectedListEnd (c :: rest))

/-- Read the items of a list, at most so many. -/
def items (read : List Char → Step α) :
    Nat → Bool → List Char → Except Fault (List α × List Char)
  | 0, _, cs => .ok ([], cs)
  | n + 1, first, cs => do
      let (more, rest) ← nextItem first cs
      if more then
        let (a, rest) ← read rest
        let (as, rest) ← items read n false rest
        pure (a :: as, rest)
      else
        pure ([], rest)

/-- Read a list. -/
def list (read : List Char → Step α) (cs : List Char) : Step (List α) :=
  match skipBlanks cs with
  | [] => .error (.atNext .endInValue [])
  | '[' :: rest => closing closeList afterList (items read (rest.length + 1) true rest)
  | rest => .error (refuse "a sequence" rest)

/-- The next key of an object, if there is one. -/
def nextKey (first : Bool) (cs : List Char) : Step (Option String) :=
  match skipBlanks cs with
  | [] => .error (.atNext .endInObject [])
  | '\x7d' :: rest => .ok (none, '\x7d' :: rest)
  | c :: rest =>
      if first then
        if c = '"' then (stringText rest).map fun r => (some r.1, r.2)
        else .error (.atNext .keyNotString (c :: rest))
      else if c = ',' then
        match skipBlanks rest with
        | '"' :: left => (stringText left).map fun r => (some r.1, r.2)
        | '\x7d' :: left => .error (.atNext .trailingComma ('\x7d' :: left))
        | [] => .error (.atNext .endInValue [])
        | left => .error (.atNext .keyNotString left)
      else .error (.atNext .expectedObjectEnd (c :: rest))

/-- Read the entries of an object, at most so many, and gather what they say. -/
def entries (read : String → σ → List Char → Step σ) :
    Nat → Bool → σ → List Char → Except Fault (σ × List Char)
  | 0, _, s, cs => .ok (s, cs)
  | n + 1, first, s, cs => do
      let (key?, rest) ← nextKey first cs
      match key? with
      | some key =>
          let (s, rest) ← read key s rest
          entries read n false s rest
      | none => pure (s, rest)

/-- Read the value of a key that may be given once. -/
def once (field : String) (old : Option α) (read : List Char → Step α) (cs : List Char) :
    Except Fault (Option α × List Char) :=
  match old with
  | some _ => .error (.pending (.mismatch (.duplicateField field)) cs)
  | none => do
      let rest ← colon cs
      let (a, rest) ← read rest
      pure (some a, rest)

/-- Pass over the value of an unknown key. -/
def skipEntry (cs : List Char) : Except Fault (List Char) := do
  skipValue (← colon cs)

/-- The value of a key that must be given. -/
def required (field : String) (value : Option α) (rest : List Char) : Except Fault α :=
  match value with
  | some a => .ok a
  | none => .error (.pending (.mismatch (.missingField field)) rest)

/-- Read a structure, which is either an object or the list of its fields. -/
def structure? (name : String) (ofObject ofList : List Char → Step α) (cs : List Char) :
    Step α :=
  match skipBlanks cs with
  | [] => .error (.atNext .endInValue [])
  | '[' :: rest => closing closeList afterList (ofList rest)
  | '\x7b' :: rest => closing closeObject afterObject (ofObject rest)
  | rest => .error (refuse name rest)

/-- Read the next field of a structure that is given as a list. -/
def nextField (read : List Char → Step α) (first : Bool) (cs : List Char) :
    Except Fault (Option α × List Char) := do
  let (more, rest) ← nextItem first cs
  if more then
    let (a, rest) ← read rest
    pure (some a, rest)
  else
    pure (none, rest)

/-- A field of a structure that is given as a list must be there. -/
def fieldOf (count : Nat) (expected : String) (value : Option α) (rest : List Char) :
    Except Fault α :=
  match value with
  | some a => .ok a
  | none => .error (.pending (.mismatch (.invalidLength count expected)) rest)

/-- Nothing but blanks may be left. -/
def atEnd (cs : List Char) : Except Fault Unit :=
  match skipBlanks cs with
  | [] => .ok ()
  | rest => .error (.atNext .trailingCharacters rest)

end Exposure.Json
