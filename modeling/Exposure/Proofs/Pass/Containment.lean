import Exposure.Proofs.File.Route
import Exposure.Proofs.Pass.Outputs

/-!
# Where a pass writes the manifest

The name of the manifest is the name of the module with an ending, and the name of a module is any
text that is not blank.  So it can be a path, and the manifest stands below the directory of the
artifacts only as this path says: always when the name has no slash, and not when the path is
absolute or goes up and comes down elsewhere.
-/

namespace Exposure

open FileTree (route)

/-! ## The name of the manifest -/

namespace Surface

variable {moduleName : String}

theorem manifestName_ne_empty (moduleName : String) : manifestName moduleName ≠ "" := by
  simp [manifestName]

theorem manifestName_ne_up (moduleName : String) : manifestName moduleName ≠ ".." := by
  intro h
  have hlength := congrArg String.length h
  rw [manifestName, String.length_append] at hlength
  have hending : ".manifest.json".length = 14 := by decide
  have hup : "..".length = 2 := by decide
  omega

theorem notMem_manifestName (h : '/' ∉ moduleName.toList) :
    '/' ∉ (manifestName moduleName).toList := by
  rw [manifestName, String.toList_append, List.mem_append]
  rintro (hmodule | hending)
  · exact h hmodule
  · revert hending
    decide

theorem isAbsolute_manifestName (moduleName : String) :
    Path.isAbsolute (manifestName moduleName) = Path.isAbsolute moduleName := by
  by_cases hempty : moduleName = ""
  · subst hempty
    decide
  · exact Path.isAbsolute_append hempty

end Surface

namespace Configuration

variable {c : Configuration} {frontEnd : FrontEnd (StateM FileTree)} {directory : String}
  {report : PassReport} {t t' : FileTree}

/-- The path of the manifest in a directory. -/
def manifestPath (c : Configuration) (directory : String) : String :=
  Path.join directory (Surface.manifestName c.moduleName)

/-- Where a pass writes the manifest, and when that is below the directory of the artifacts. -/
structure ManifestStands (c : Configuration) (frontEnd : FrontEnd (StateM FileTree))
    (directory : String) (t : FileTree) (report : PassReport) (t' : FileTree) : Prop where
  /-- The manifest is the artifact, and its file is what sets the files apart from those that the
  pass without artifacts leaves. -/
  written : ∃ a report₀ t₀, report.artifacts = [a] ∧
    report.artifactPaths = [c.manifestPath directory] ∧
    (c.withoutArtifacts.run frontEnd .manifest).runIn t = (.ok report₀, t₀) ∧
    t'.fileAt =
      Function.update t₀.fileAt (t'.placeOf (c.manifestPath directory)) (some a.contents)
  /-- A name without slashes stands in the directory. -/
  plain : '/' ∉ c.moduleName.toList → t'.Below directory (c.manifestPath directory)
  /-- A relative path must come down by the names that it went up. -/
  relative : Path.isAbsolute c.moduleName = false →
    (t'.Below directory (c.manifestPath directory) ↔
      (t'.placeOf directory).rtake (route (Surface.manifestName c.moduleName)).ups <+:
        (route (Surface.manifestName c.moduleName)).downs)
  /-- An absolute path must come down by the names of the directory. -/
  absolute : Path.isAbsolute c.moduleName = true →
    (t'.Below directory (c.manifestPath directory) ↔
      t'.placeOf directory <+: (route (Surface.manifestName c.moduleName)).downs)

/-- A pass that succeeds has written its artifacts behind the pass without artifacts. -/
theorem exists_of_run_eq_ok_of_withoutArtifacts {backend : Backend (StateM FileTree)}
    (h : (c.run frontEnd backend).runIn t = (.ok report, t')) :
    ∃ report₀ t₀, (c.withoutArtifacts.run frontEnd backend).runIn t = (.ok report₀, t₀) ∧
      (c.writeArtifacts report.artifacts).runIn t₀ = (.ok report.artifactPaths, t') := by
  rw [run_eq_bind_writeArtifacts] at h
  obtain ⟨report₀, t₀, hbefore, h⟩ := PassM.exists_of_runIn_bind_eq_ok h
  obtain ⟨paths, t₁, hwrite, h⟩ := PassM.exists_of_runIn_bind_eq_ok h
  cases h
  exact ⟨report₀, t₀, hbefore, hwrite⟩

/-- A pass with the manifest that succeeds writes the manifest below the directory of the artifacts
exactly when the name of the module, as a path, leads there. -/
theorem run_manifest_stands (hdirectory : c.artifactDirectory? = some directory)
    (h : (c.run frontEnd .manifest).runIn t = (.ok report, t')) :
    ManifestStands c frontEnd directory t report t' := by
  obtain ⟨-, -, -, -, -, -, hartifacts, -⟩ := exists_of_run_manifest_eq_ok h
  obtain ⟨report₀, t₀, hbefore, hemission⟩ := exists_of_run_eq_ok_of_withoutArtifacts h
  rw [hartifacts] at hemission
  obtain ⟨hplace, ⟨hnone, -⟩ | ⟨directory', hsome, hpaths, hfile⟩⟩ :=
    of_writeArtifacts_singleton_eq_ok hemission
  · rw [hdirectory] at hnone
    cases hnone
  · obtain rfl : directory = directory' := Option.some.inj (hdirectory.symm.trans hsome)
    refine ⟨⟨_, report₀, t₀, hartifacts, hpaths, hbefore, ?_⟩, fun hslash => ?_,
      fun hrelative => ?_, fun habsolute => ?_⟩
    · rw [hplace]
      exact hfile
    · exact FileTree.below_join_of_notMem (Surface.manifestName_ne_empty _)
        (Surface.manifestName_ne_up _) (Surface.notMem_manifestName hslash)
    · exact FileTree.below_join_iff ((Surface.isAbsolute_manifestName _).trans hrelative)
    · exact FileTree.below_join_iff_of_isAbsolute
        ((Surface.isAbsolute_manifestName _).trans habsolute)

/-- A name that goes up and comes back stands below the directory. -/
theorem run_manifest_stands_of_detour :
    let c : Configuration := {
      moduleName := "../out/demo"
      output := { artifacts := some "out" } }
    let frontEnd : FrontEnd (StateM FileTree) := fun _ => pure (.ok .empty)
    let t := FileTree.empty ["work"]
    ∃ report t', c.artifactDirectory? = some "out" ∧
      (c.run frontEnd .manifest).runIn t = (.ok report, t') ∧
      ManifestStands c frontEnd "out" t report t' ∧
      t'.placeOf (c.manifestPath "out") = ["work", "out", "demo.manifest.json"] := by
  intro c frontEnd t
  have hnone : (c.run frontEnd .manifest).failure? t = none := by decide +kernel
  obtain ⟨report, hrun⟩ := PassM.exists_of_failure?_eq_none hnone
  exact ⟨report, _, rfl, hrun, run_manifest_stands rfl hrun, by decide +kernel⟩

/-- A pass that succeeds writes the manifest beside the directory of the artifacts when the name of
the module goes up. -/
theorem run_manifest_leaves_directory :
    let c : Configuration := {
      moduleName := "../demo"
      output := { artifacts := some "out" } }
    let frontEnd : FrontEnd (StateM FileTree) := fun _ => pure (.ok .empty)
    let t := FileTree.empty ["work"]
    ∃ report t', c.artifactDirectory? = some "out" ∧
      (c.run frontEnd .manifest).runIn t = (.ok report, t') ∧
      report.artifactPaths = ["out/../demo.manifest.json"] ∧
      (t'.fileAt ["work", "demo.manifest.json"]).isSome ∧
      ¬ t'.Below "out" "out/../demo.manifest.json" := by
  intro c frontEnd t
  have hnone : (c.run frontEnd .manifest).failure? t = none := by decide +kernel
  have hreport : ((c.run frontEnd .manifest).runIn t).1.toOption.map (·.artifactPaths) =
      some ["out/../demo.manifest.json"] := by decide +kernel
  obtain ⟨report, hrun⟩ := PassM.exists_of_failure?_eq_none hnone
  rw [hrun] at hreport
  exact ⟨report, _, rfl, hrun, Option.some.inj hreport, by decide +kernel, by decide +kernel⟩

end Configuration

end Exposure
