import Exposure.Command.Arguments
import Exposure.Pass.Run

/-!
# Running a command

A command ends with a code, an output and, when it fails, a line that says why: the failure, what it
happened in and what caused it.
-/

namespace Exposure

/-- How a command ends. -/
structure Outcome where
  code : Nat
  output : String
  /-- Why the command failed, if it was run and failed. -/
  error : Option String
deriving DecidableEq, Repr

namespace Outcome

/-- The end of a command that succeeds. -/
def success (output : String) : Outcome := ⟨0, output, none⟩

/-- The end of a command that fails with some texts, from the outermost one to the cause. -/
def failure (output : String) (chain : List String) : Outcome :=
  ⟨1, output, some ("error: " ++ ": ".intercalate chain ++ "\n")⟩

/-- The end of a command that is not run. -/
def ofStop : Command.Stop → Outcome
  | .help => ⟨0, "", none⟩
  | .usage => ⟨2, "", none⟩

end Outcome

namespace Command

variable {m : Type → Type} [Monad m] [FileSystem m]

/-- Write a file behind some output and end the command. -/
def finishWith (output path text : String) : m Outcome := do
  match ← FileSystem.writeFile path text with
  | .ok () => pure (.success output)
  | .error e => pure (.failure output [s!"writing {path}", e.message])

/-- The texts of a failure to load a configuration. -/
def loadingChain (config : String) (e : PassError) : List String := s!"loading {config}" :: e.chain

/-- Write the generated header. -/
def runHeader (config : String) (out : Option String) : m Outcome := do
  match ← (Configuration.load (m := m) config).run with
  | .error e => pure (.failure "" (loadingChain config e))
  | .ok c =>
      match ← (c.generateHeader (m := m)).run with
      | .error e => pure (.failure "" e.chain)
      | .ok text =>
          match out with
          | some path => finishWith "" path text
          | none => pure (.success text)

/-- The line that counts the entities of a pass. -/
def countLine (moduleName : String) (r : PassReport) : String :=
  s!"{moduleName}: {r.catalog.size} entities, {r.resolution.exposedCount} exposed, " ++
    s!"{r.resolution.hiddenCount} hidden\n"

/-- The line that explains the decision for a name. -/
def explainLine (r : PassReport) (name : String) : String :=
  ((r.resolution.explain? (.parse name)).getD s!"`{name}` is not in the catalog") ++ "\n"

/-- Run a pass on a dump. -/
def runResolve (config catalog : String) (explain : List String) (manifest : Option String) :
    m Outcome := do
  match ← (Configuration.load (m := m) config).run with
  | .error e => pure (.failure "" (loadingChain config e))
  | .ok c =>
      match ← (c.run (m := m) (.ofDumpFile catalog) .manifest).run with
      | .error e => pure (.failure "" e.chain)
      | .ok r =>
          let output := countLine c.moduleName r ++ String.join (explain.map (explainLine r))
          match manifest with
          | none => pure (.success output)
          | some path =>
              match r.artifacts with
              | a :: _ => finishWith output path a.contents
              | [] => pure (.failure output ["manifest emitter produced no artifact"])

/-- Run a command. -/
def run : Command → m Outcome
  | header config out => runHeader config out
  | resolve config catalog explain manifest => runResolve config catalog explain manifest

/-- Run the command of some arguments. -/
def runArguments (arguments : List String) : m Outcome :=
  match parse arguments with
  | .ok c => c.run
  | .error stop => pure (.ofStop stop)

end Command

end Exposure
