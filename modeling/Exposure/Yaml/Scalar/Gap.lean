import Exposure.Yaml.Cursor
import Exposure.Yaml.SyntaxError

/-!
# Gaps between the words of a scalar

Plain and quoted scalars may go on over several lines.  A gap within a line stands for its blanks.
A gap with line breaks is folded: one break stands for a space, and of several breaks the first one
is dropped.
-/

namespace Exposure.Yaml

/-- Blanks and line breaks between two words. -/
structure Gap where
  /-- The blanks, in a gap without line breaks. -/
  blanks : List Char := []
  /-- Whether the line was broken. -/
  broken : Bool := false
  /-- The text of the first line break. -/
  first : List Char := []
  /-- The text of the line breaks behind the first. -/
  later : List Char := []
deriving DecidableEq, Repr

namespace Gap

/-- The gap behind a line break that was escaped: the break itself stands for nothing. -/
def continued : Gap := { broken := true }

/-- Add a blank; behind a line break it is indentation. -/
def addBlank (g : Gap) (c : Char) : Gap :=
  if g.broken then g else { g with blanks := g.blanks ++ [c] }

/-- Add a line break. -/
def addBreak (g : Gap) (text : List Char) : Gap :=
  if g.broken then { g with later := g.later ++ text }
  else { broken := true, first := text }

/-- The text that a gap stands for. -/
def text (g : Gap) : List Char :=
  if ! g.broken then g.blanks
  else if startsWith '\n' g.first then (if g.later.isEmpty then [' '] else g.later)
  else g.first ++ g.later

/-- Read a gap; behind a line break no tab may stand left of a column. -/
def read (indent : Int) (g : Gap) (c : Cursor) : Except SyntaxError (Gap × Cursor) :=
  match _ : c.rest with
  | [] => .ok (g, c)
  | d :: _ =>
      if isBlank d then
        if g.broken && d = '\t' && c.column < indent then .error .tabInIndentation
        else read indent (g.addBlank d) (c.skip 1)
      else if isBreak d then read indent (g.addBreak (breakText c.rest)) c.breakLine
      else .ok (g, c)
termination_by c.rest.length
decreasing_by
  · simp_all
  · exact c.length_breakLine_lt (by simp_all)

@[simp] theorem text_blanks (cs : List Char) : text { blanks := cs } = cs := rfl

@[simp] theorem text_continued : text continued = [] := rfl

end Gap

end Exposure.Yaml
