/-!
# Texts as bytes

A text is stored in one to four bytes for each character.  Places in a text may be counted in bytes,
and not every sequence of bytes is a text.
-/

namespace Exposure.Text

/-- The length of a text in bytes. -/
def byteLength (cs : List Char) : Nat := cs.foldr (fun c n => c.utf8Size + n) 0

@[simp] theorem byteLength_nil : byteLength [] = 0 := rfl

@[simp] theorem byteLength_cons (c : Char) (cs : List Char) :
    byteLength (c :: cs) = c.utf8Size + byteLength cs := rfl

@[simp] theorem byteLength_append (cs ds : List Char) :
    byteLength (cs ++ ds) = byteLength cs + byteLength ds := by
  induction cs with
  | nil => simp
  | cons c cs ih => simp [ih, Nat.add_assoc]

/-- The bytes of a text. -/
def bytes (s : String) : List UInt8 := s.toUTF8.toList

/-- The text of some bytes, if they are one. -/
def ofBytes? (bs : List UInt8) : Option String := String.fromUTF8? ⟨bs.toArray⟩

/-- The bytes of a character that takes several. -/
example : bytes "é" = [0xc3, 0xa9] := by decide +kernel

/-- A first byte without the bytes behind it is no text. -/
example : ofBytes? [0xc3] = none := by decide +kernel

end Exposure.Text
