import Exposure.Proofs.Pass.Running

/-!
# The file steps of a pass

All that a pass does to files by itself are steps: creating the directories above a file and writing
the file, each with the failure of the pass that a failure of the step becomes.  The header and the
artifacts are written by performing the steps for them in order.
-/

namespace Exposure

/-- An operation that changes files. -/
inductive FileOp where
  /-- Create a directory with all directories above it. -/
  | createDirectories (path : String)
  | writeFile (path text : String)
deriving DecidableEq, Repr

/-- The paths that an operation may change something at. -/
def FileOp.paths : FileOp → List String
  | createDirectories path => FileSystem.ancestors path.length path
  | writeFile path _ => [path]

/-- An operation in a pass, and what a failure of it is to the pass. -/
structure FileStep where
  op : FileOp
  failure : FileError → PassError

/-- The steps that write a file into a directory which may have to be created first. -/
def FileStep.toWrite (path text : String) (failure : String → FileError → PassError) :
    List FileStep :=
  (Path.parent? path).toList.map (fun d => ⟨.createDirectories d, failure d⟩) ++
    [⟨.writeFile path text, failure path⟩]

theorem FileStep.mem_toWrite {path text : String} {failure : String → FileError → PassError}
    {s : FileStep} :
    s ∈ toWrite path text failure ↔
      (∃ d ∈ Path.parent? path, s = ⟨.createDirectories d, failure d⟩) ∨
        s = ⟨.writeFile path text, failure path⟩ := by
  simp [toWrite, eq_comm]

variable {m : Type → Type} [Monad m] [FileSystem m]

/-- Perform an operation. -/
def FileOp.perform : FileOp → m (Except FileError Unit)
  | createDirectories path => FileSystem.createDirectories path
  | writeFile path text => FileSystem.writeFile path text

namespace PassM

/-- Perform a step. -/
def perform (s : FileStep) : PassM m Unit := attempt s.failure s.op.perform

/-- Perform steps, up to the first that fails. -/
def performAll (ss : List FileStep) : PassM m Unit := ss.forM perform

theorem performAll_cons (s : FileStep) (ss : List FileStep) :
    (performAll (s :: ss) : PassM m Unit) = (do perform s; performAll ss) := List.forM_cons

end PassM

namespace Configuration

open PassM (performAll)

/-- The steps that write the header. -/
def headerSteps (c : Configuration) (header : String) : List FileStep :=
  (c.output.header.map c.resolvePath).toList.flatMap fun path =>
    FileStep.toWrite path header .file

/-- The steps that write an artifact; each failure names the artifact. -/
def artifactSteps (directory : String) (a : Artifact) : List FileStep :=
  let path := Path.join directory a.name
  FileStep.toWrite path a.contents fun _ e => .emit (.write path e)

/-- The steps that write the artifacts. -/
def emissionSteps (c : Configuration) (artifacts : List Artifact) : List FileStep :=
  (c.output.artifacts.map c.resolvePath).toList.flatMap fun directory =>
    artifacts.flatMap (artifactSteps directory)

/-- Where the artifacts are written. -/
def emissionPaths (c : Configuration) (artifacts : List Artifact) : List String :=
  (c.output.artifacts.map c.resolvePath).toList.flatMap fun directory =>
    artifacts.map fun a => Path.join directory a.name

variable [LawfulMonad m]

theorem performAll_toWrite (path text : String) (failure : String → FileError → PassError) :
    (performAll (FileStep.toWrite path text failure) : PassM m Unit) = (do
      match Path.parent? path with
      | some directory =>
          PassM.attempt (failure directory) (FileSystem.createDirectories directory)
      | none => pure ()
      PassM.attempt (failure path) (FileSystem.writeFile path text)) := by
  rw [FileStep.toWrite]
  cases Path.parent? path <;> simp [performAll, PassM.perform, FileOp.perform]

theorem writeHeader_eq (c : Configuration) (header : String) :
    (c.writeHeader header : PassM m _) =
      (do performAll (c.headerSteps header); pure (c.output.header.map c.resolvePath)) := by
  rw [writeHeader, headerSteps, headerPath?]
  cases c.output.header.map c.resolvePath with
  | none => simp [performAll]
  | some path =>
      rw [Option.toList_some, List.flatMap_singleton, performAll_toWrite]
      dsimp only
      cases Path.parent? path <;> simp

theorem writeArtifact_eq (directory : String) (a : Artifact) :
    (writeArtifact directory a : PassM m _) =
      (do performAll (artifactSteps directory a); pure (Path.join directory a.name)) := by
  rw [writeArtifact, artifactSteps, performAll_toWrite, FileSystem.createParent]
  cases Path.parent? (Path.join directory a.name) <;> simp [PassM.attempt_pure_ok]

theorem writeArtifacts_eq (c : Configuration) (artifacts : List Artifact) :
    (c.writeArtifacts artifacts : PassM m _) =
      (do performAll (c.emissionSteps artifacts); pure (c.emissionPaths artifacts)) := by
  rw [writeArtifacts, emissionSteps, emissionPaths, artifactDirectory?]
  cases c.output.artifacts.map c.resolvePath with
  | none => simp [performAll]
  | some directory =>
      rw [Option.toList_some, List.flatMap_singleton, List.flatMap_singleton]
      dsimp only
      induction artifacts with
      | nil => simp [performAll]
      | cons a artifacts ih =>
          rw [List.mapM_cons, ih, writeArtifact_eq]
          simp [performAll]

end Configuration

end Exposure
