import Exposure.Text.Unmarked

/-!
# Quoted texts

A message shows a text between double quotes.  The quote and the backslash stand behind a backslash,
the usual control characters have letters, and every other character that leaves no mark of its own
is given by its code point.
-/

namespace Exposure.Text

/-- The digits of a number to base sixteen, in small letters. -/
def hex (n : Nat) : String := String.ofList (Nat.toDigits 16 n)

/-- A character as it stands in a quoted text. -/
def quoteChar (c : Char) : String :=
  if c = '"' then "\\\""
  else if c = '\\' then "\\\\"
  else if c = '\n' then "\\n"
  else if c = '\r' then "\\r"
  else if c = '\t' then "\\t"
  else if c.toNat = 0 then "\\0"
  else if isUnmarked c then "\\u\x7b" ++ hex c.toNat ++ "\x7d"
  else c.toString

/-- A text between double quotes. -/
def quoted (s : String) : String :=
  "\"" ++ String.join (s.toList.map quoteChar) ++ "\""

/-- A text without special characters is only put between quotes. -/
example : quoted "a b" = "\"a b\"" := by decide +kernel

end Exposure.Text
