import Exposure.Json.Read
import Exposure.Json.Value

/-!
# Reading whole values

A text that holds one JSON value and nothing else is read without an expected form.  Brackets may
stand in each other up to a fixed depth.  The entries of an object are put in the order of their
keys; of several entries with one key the last one is kept.
-/

namespace Exposure.Json

open Document (Found)

namespace Value

/-- The value that a lexeme is. -/
def ofFound : Found → Value
  | .boolean b => boolean b
  | .integer n => integer n
  | .decimal text => decimal text
  | .string s => string s
  | _ => null

/-- Put the value of a key into entries that are in order, in the place of an older one. -/
def put (key : String) (v : Value) : List (String × Value) → List (String × Value)
  | [] => [(key, v)]
  | (k, old) :: rest =>
      if key < k then (key, v) :: (k, old) :: rest
      else if key = k then (key, v) :: rest
      else (k, old) :: put key v rest

/-- How deep brackets may stand in each other. -/
def maxDepth : Nat := 127

/-- Read an entry of an object whose key has been read, and put it into the entries before it. -/
def entryAt (read : List Char → Step Value) (key : String) (es : List (String × Value))
    (cs : List Char) : Except Fault (List (String × Value) × List Char) := do
  let rest ← colon cs
  let (v, rest) ← read rest
  pure (put key v es, rest)

/-- Read a value in which brackets stand in each other up to a depth. -/
def readAt (depth : Nat) (cs : List Char) : Except Fault (Value × List Char) :=
  let ofNumber (r : Step Found) : Step Value := r.map fun r => (ofFound r.1, r.2)
  match skipBlanks cs with
  | [] => .error (.atNext .endInValue [])
  | 'n' :: rest => (word "ull".toList rest).map (null, ·)
  | 't' :: rest => (word "rue".toList rest).map (boolean true, ·)
  | 'f' :: rest => (word "alse".toList rest).map (boolean false, ·)
  | '-' :: rest => ofNumber (number false rest)
  | '"' :: rest => (stringText rest).map fun r => (string r.1, r.2)
  | '[' :: rest =>
      match depth with
      | 0 => .error (.atNext .tooDeep ('[' :: rest))
      | d + 1 => do
          let (vs, rest) ← items (readAt d) (rest.length + 1) true rest
          pure (array vs, ← closeList rest)
  | '\x7b' :: rest =>
      match depth with
      | 0 => .error (.atNext .tooDeep ('\x7b' :: rest))
      | d + 1 => do
          let (es, rest) ← entries (entryAt (readAt d)) (rest.length + 1) true [] rest
          pure (object es, ← closeObject rest)
  | c :: rest =>
      if c.isDigit then ofNumber (number true (c :: rest))
      else .error (.atNext .expectedValue (c :: rest))

/-- The value that a text is. -/
def ofText? (text : String) : Option Value :=
  match readAt maxDepth text.toList with
  | .error _ => none
  | .ok (v, rest) => (atEnd rest).toOption.map fun _ => v

/-- A value that was put is found under its key. -/
theorem lookup_put_self (key : String) (v : Value) (es : List (String × Value)) :
    (put key v es).lookup key = some v := by
  induction es with
  | nil => simp [put]
  | cons e es ih =>
      obtain ⟨k, old⟩ := e
      unfold put
      split
      · simp
      · split
        · simp
        · next h => simpa [List.lookup_cons, beq_false_of_ne h] using ih

end Value

end Exposure.Json
