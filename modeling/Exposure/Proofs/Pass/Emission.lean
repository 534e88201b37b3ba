import Exposure.Proofs.File.Footprint
import Exposure.Proofs.Pass.Running

/-!
# What a pass emits before it fails

A pass is the pass that writes no artifacts, followed by the writing of the artifacts.  They are
written one after the other, and one that cannot be written leaves those in front of it.  So a pass
that fails has emitted exactly these, and nothing when it failed before.
-/

namespace Exposure

variable {t t' : FileTree} {path text directory : String}

namespace FileTree

/-- The texts of the files after some more were written, each to a path. -/
def filesAfter (t : FileTree) (files : List (String × String)) : List String → Option String :=
  files.foldl (fun f x => Function.update f (t.placeOf x.1) (some x.2)) t.fileAt

theorem filesAfter_cons (hplace : t'.placeOf = t.placeOf)
    (hfile : t'.fileAt = Function.update t.fileAt (t.placeOf path) (some text))
    (files : List (String × String)) :
    t.filesAfter ((path, text) :: files) = t'.filesAfter files := by
  rw [filesAfter, filesAfter, List.foldl_cons, hplace, hfile]

/-- Creating the directory of a path leaves all files as they are. -/
theorem fileAt_of_createParent {r : Except FileError Unit}
    (h : (FileSystem.createParent path : StateM FileTree _).run t = (r, t')) :
    t'.placeOf = t.placeOf ∧ t'.fileAt = t.fileAt := by
  obtain rfl : ((FileSystem.createParent path : StateM FileTree _).run t).2 = t' :=
    congrArg Prod.snd h
  rw [FileSystem.createParent]
  cases Path.parent? path with
  | none => exact ⟨rfl, rfl⟩
  | some directory =>
      obtain ⟨hplace, hfile⟩ := touches_createDirectories_fileAt directory t
      exact ⟨hplace, funext fun k => hfile k (by simp)⟩

end FileTree

namespace Configuration

/-! ## Writing artifacts -/

/-- Where an artifact is written, and its text. -/
def artifactFile (directory : String) (a : Artifact) : String × String :=
  (Path.join directory a.name, a.contents)

/-- An artifact is written, or the pass fails and all files are as they were. -/
theorem writeArtifact_cases {a : Artifact} {r : Except PassError String}
    (h : (writeArtifact directory a).runIn t = (r, t')) :
    t'.placeOf = t.placeOf ∧
      ((r = .ok (Path.join directory a.name) ∧ t'.fileAt = Function.update t.fileAt
          (t.placeOf (Path.join directory a.name)) (some a.contents)) ∨
        ∃ e, r = .error (.emit (.write (Path.join directory a.name) e)) ∧
          t'.fileAt = t.fileAt) := by
  obtain ⟨e, hparent, rfl⟩ | ⟨_, t₁, hparent, h⟩ := PassM.runIn_attempt_bind_cases h
  · obtain ⟨hplace, hfile⟩ := FileTree.fileAt_of_createParent hparent
    exact ⟨hplace, .inr ⟨e, rfl, hfile⟩⟩
  obtain ⟨hplace, hfile⟩ := FileTree.fileAt_of_createParent hparent
  obtain ⟨e, hwrite, rfl⟩ | ⟨_, t₂, hwrite, h⟩ := PassM.runIn_attempt_bind_cases h
  · obtain rfl := FileTree.eq_of_writeFile_error hwrite
    exact ⟨hplace, .inr ⟨e, rfl, hfile⟩⟩
  · cases h
    obtain ⟨hplace', hfile'⟩ := FileTree.fileAt_of_writeFile_ok hwrite
    rw [hplace, hfile] at hfile'
    exact ⟨hplace'.trans hplace, .inl ⟨rfl, hfile'⟩⟩

/-- Artifacts fail at one that cannot be written, behind others that are. -/
theorem exists_of_mapM_writeArtifact_error {artifacts : List Artifact} {e : PassError}
    (h : (artifacts.mapM (writeArtifact directory)).runIn t = (.error e, t')) :
    ∃ emitted a rest err, artifacts = emitted ++ a :: rest ∧
      e = .emit (.write (Path.join directory a.name) err) ∧
      t'.fileAt = t.filesAfter (emitted.map (artifactFile directory)) := by
  induction artifacts generalizing t with
  | nil => cases h
  | cons a artifacts ih =>
      rw [List.mapM_cons] at h
      rcases ha : (writeArtifact directory a).runIn t with ⟨r, t₁⟩
      obtain ⟨hplace, ⟨rfl, hfile⟩ | ⟨err, rfl, hfile⟩⟩ := writeArtifact_cases ha
      · rw [PassM.runIn_bind_of_ok ha] at h
        rcases hrest : (artifacts.mapM (writeArtifact directory)).runIn t₁ with ⟨e' | paths, t₂⟩
        · rw [PassM.runIn_bind_of_error hrest] at h
          cases h
          obtain ⟨emitted, b, rest, err, rfl, rfl, hfiles⟩ := ih hrest
          refine ⟨a :: emitted, b, rest, err, rfl, rfl, ?_⟩
          rw [hfiles, List.map_cons]
          exact (FileTree.filesAfter_cons hplace hfile _).symm
        · rw [PassM.runIn_bind_of_ok hrest] at h
          cases h
      · rw [PassM.runIn_bind_of_error ha] at h
        cases h
        exact ⟨[], a, artifacts, err, rfl, rfl, hfile⟩

/-! ## The pass -/

/-- The configuration that writes no artifacts. -/
def withoutArtifacts (c : Configuration) : Configuration :=
  { c with output := { c.output with artifacts := none } }

/-- A pass is the pass that writes no artifacts, and then the writing. -/
theorem run_eq_bind_writeArtifacts {m : Type → Type} [Monad m] [LawfulMonad m] [FileSystem m]
    (c : Configuration) (frontEnd : FrontEnd m) (backend : Backend m) :
    c.run frontEnd backend = (do
      let report ← c.withoutArtifacts.run frontEnd backend
      let artifactPaths ← c.writeArtifacts report.artifacts
      pure { report with artifactPaths }) := by
  have hnone : ∀ artifacts, (c.withoutArtifacts.writeArtifacts artifacts : PassM m _) = pure [] :=
    fun _ => rfl
  simp only [run, hnone, bind_assoc, pure_bind]
  rfl

/-- What a failed pass has emitted.  Files are compared with those that the pass without artifacts
leaves: a pass may write its header, and whoever it asks may write what they like. -/
inductive FailedEmission (c : Configuration) (frontEnd : FrontEnd (StateM FileTree))
    (backend : Backend (StateM FileTree)) (t : FileTree) (e : PassError) (t' : FileTree) : Prop
  /-- It has failed before it came to the artifacts. -/
  | nothing (hrun : (c.withoutArtifacts.run frontEnd backend).runIn t = (.error e, t'))
  /-- It has failed at an artifact, and the files of those in front of it are there. -/
  | inFront {report : PassReport} {t₁ : FileTree} {directory : String}
      {emitted rest : List Artifact} {a : Artifact} {err : FileError}
      (hrun : (c.withoutArtifacts.run frontEnd backend).runIn t = (.ok report, t₁))
      (hdirectory : c.artifactDirectory? = some directory)
      (hartifacts : report.artifacts = emitted ++ a :: rest)
      (hfailure : e = .emit (.write (Path.join directory a.name) err))
      (hfiles : t'.fileAt = t₁.filesAfter (emitted.map (artifactFile directory)))

/-- A pass that fails has emitted nothing, or the artifacts in front of one that could not be
written. -/
theorem run_failedEmission {c : Configuration} {frontEnd : FrontEnd (StateM FileTree)}
    {backend : Backend (StateM FileTree)} {e : PassError}
    (h : (c.run frontEnd backend).runIn t = (.error e, t')) :
    FailedEmission c frontEnd backend t e t' := by
  rw [run_eq_bind_writeArtifacts] at h
  rcases hrun : (c.withoutArtifacts.run frontEnd backend).runIn t with ⟨e₀ | report, t₁⟩
  · rw [PassM.runIn_bind_of_error hrun] at h
    cases h
    exact .nothing hrun
  rw [PassM.runIn_bind_of_ok hrun] at h
  rcases hwrite : (c.writeArtifacts report.artifacts).runIn t₁ with ⟨e₁ | paths, t₂⟩
  · rw [PassM.runIn_bind_of_error hwrite] at h
    cases h
    rw [writeArtifacts] at hwrite
    split at hwrite
    · cases hwrite
    · next directory hdirectory =>
      obtain ⟨emitted, a, rest, err, hartifacts, hfailure, hfiles⟩ :=
        exists_of_mapM_writeArtifact_error hwrite
      exact .inFront hrun hdirectory hartifacts hfailure hfiles
  · rw [PassM.runIn_bind_of_ok hwrite] at h
    cases h

/-- The first artifact stands where the second needs a directory. -/
theorem run_failedEmission_of_file_as_directory :
    let c : Configuration := { output := { artifacts := some "out" } }
    let frontEnd : FrontEnd (StateM FileTree) := fun _ => pure (.ok .empty)
    let backend : Backend (StateM FileTree) :=
      fun _ => pure (.ok [⟨"a.txt", "first"⟩, ⟨"a.txt/b.txt", "second"⟩])
    let t := FileTree.empty ["work"]
    let t' := ((c.run frontEnd backend).runIn t).2
    let e := PassError.emit (.write "out/a.txt/b.txt" .alreadyExists)
    (c.run frontEnd backend).runIn t = (.error e, t') ∧
      FailedEmission c frontEnd backend t e t' := by
  intro c frontEnd backend t t' e
  have hfailure : (c.run frontEnd backend).failure? t = some e := by decide +kernel
  have hrun := PassM.runIn_of_failure?_eq_some hfailure
  exact ⟨hrun, run_failedEmission hrun⟩

/-- The pass fails, and its first artifact is a file that was not there before. -/
theorem run_error_leaves_artifact :
    let c : Configuration := { output := { artifacts := some "out" } }
    let frontEnd : FrontEnd (StateM FileTree) := fun _ => pure (.ok .empty)
    let backend : Backend (StateM FileTree) :=
      fun _ => pure (.ok [⟨"a.txt", "first"⟩, ⟨"a.txt/b.txt", "second"⟩])
    let t := FileTree.empty ["work"]
    let e := PassError.emit (.write "out/a.txt/b.txt" .alreadyExists)
    (c.run frontEnd backend).failure? t = some e ∧ t.fileAt ["work", "out", "a.txt"] = none ∧
      ((c.run frontEnd backend).runIn t).2.fileAt ["work", "out", "a.txt"] = some "first" := by
  intro c frontEnd backend t e
  exact ⟨by decide +kernel, by decide +kernel, by decide +kernel⟩

end Configuration

end Exposure
