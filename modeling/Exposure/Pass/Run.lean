import Exposure.Configuration.Form
import Exposure.Pass.Error
import Exposure.Pass.FrontEnd
import Exposure.Surface

/-!
# Passes

A pass checks its configuration, writes the generated header, lets the front end parse it, decides
which entities are exposed, lets the backend emit artifacts, and writes these.  It stops at the
first failure.
-/

namespace Exposure

/-- A backend: it turns the exposed surface into artifacts. -/
abbrev Backend (m : Type → Type) := Surface → m (Except EmitError (List Artifact))

/-- What a pass has produced. -/
structure PassReport where
  header : String
  /-- Where the header was written, if it was. -/
  headerPath : Option String
  catalog : Catalog
  resolution : Resolution
  artifacts : List Artifact
  /-- Where the artifacts were written, if they were. -/
  artifactPaths : List String
deriving Repr

variable {m : Type → Type} [Monad m]

/-- The backend that emits the manifest. -/
def Backend.manifest : Backend m := fun s => pure (.ok [s.manifest])

/-- A part of a pass. -/
abbrev PassM (m : Type → Type) := ExceptT PassError m

namespace PassM

/-- A part of a pass that fails as an effect does. -/
def attempt {α ε : Type} (wrap : ε → PassError) (x : m (Except ε α)) : PassM m α :=
  ExceptT.mk do
    let r ← x
    pure (r.mapError wrap)

/-- A part of a pass without effects. -/
def check {α ε : Type} (wrap : ε → PassError) (r : Except ε α) : PassM m α :=
  ExceptT.mk (pure (r.mapError wrap))

@[simp] theorem run_attempt {α ε : Type} (wrap : ε → PassError) (x : m (Except ε α)) :
    (attempt wrap x).run = x >>= fun r => pure (r.mapError wrap) := rfl

@[simp] theorem run_check {α ε : Type} (wrap : ε → PassError) (r : Except ε α) :
    (check wrap r : PassM m α).run = pure (r.mapError wrap) := rfl

end PassM

namespace Configuration

open PassM (attempt check)

variable [FileSystem m]

/-! ## Before a pass -/

/-- Read a configuration from a file; its paths start at the directory of the file. -/
def load (path : String) : PassM m Configuration := do
  let text ← attempt (.file path) (FileSystem.readFile path)
  let c ← check .configurationFile (ofText text)
  pure { c with directory := (Path.parent? path).filter (! ·.isEmpty) }

/-- The headers as the generated header includes them: as written, or below the absolute directory
of the configuration. -/
def headerPaths (c : Configuration) : PassM m (List String) := do
  if ! c.absoluteHeaders then
    pure c.headers
  else
    match c.directory with
    | none =>
        let working ← attempt (.file ".") FileSystem.workingDirectory
        pure (c.headersBelow working working)
    | some directory =>
        if Path.isAbsolute directory then
          pure (c.headersBelow "/" directory)
        else
          let working ← attempt (.file directory) FileSystem.workingDirectory
          pure (c.headersBelow working directory)

/-- The text of the header for a table. -/
def renderHeader (c : Configuration) (t : InstantiationTable) : PassM m String := do
  check .configuration (c.headerOptions.generate (← c.headerPaths) t)

/-- The text of the header of a configuration that passes its checks. -/
def generateHeader (c : Configuration) : PassM m String := do
  let (_, table) ← check .configuration c.validate
  c.renderHeader table

/-! ## Writing -/

/-- Write the header, if the configuration says where. -/
def writeHeader (c : Configuration) (header : String) : PassM m (Option String) := do
  match c.headerPath? with
  | none => pure none
  | some path =>
      match Path.parent? path with
      | some directory =>
          attempt (.file directory) (FileSystem.createDirectories directory)
      | none => pure ()
      attempt (.file path) (FileSystem.writeFile path header)
      pure (some path)

/-- Write an artifact into a directory. -/
def writeArtifact (directory : String) (a : Artifact) : PassM m String := do
  let path := Path.join directory a.name
  attempt (fun e => .emit (.write path e)) (FileSystem.createParent path)
  attempt (fun e => .emit (.write path e)) (FileSystem.writeFile path a.contents)
  pure path

/-- Write the artifacts, if the configuration says where. -/
def writeArtifacts (c : Configuration) (artifacts : List Artifact) : PassM m (List String) :=
  match c.artifactDirectory? with
  | none => pure []
  | some directory => artifacts.mapM (writeArtifact directory)

/-! ## The pass -/

/-- Run a pass. -/
def run (c : Configuration) (frontEnd : FrontEnd m) (backend : Backend m) :
    PassM m PassReport := do
  let (policy, table) ← check .configuration c.validate
  let header ← c.renderHeader table
  let headerPath ← c.writeHeader header
  let catalog ← attempt .parse (frontEnd ⟨header, headerPath, c.resolvedIncludePaths⟩)
  let resolution := resolve catalog policy
  let artifacts ← attempt .emit (backend ⟨c.moduleName, catalog, resolution⟩)
  let artifactPaths ← c.writeArtifacts artifacts
  pure { header, headerPath, catalog, resolution, artifacts, artifactPaths }

end Configuration

end Exposure
