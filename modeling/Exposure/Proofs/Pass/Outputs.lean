import Exposure.Proofs.Instantiation.Recovery
import Exposure.Proofs.Pass.Emission

/-!
# What the files hold after a pass

A pass that succeeds has written its header, asked the front end, asked the backend and written the
artifacts, in this order.  So an artifact is not overwritten by anything, and the header only by an
artifact that is written to the same place.  The manifest is such an artifact: nothing keeps its
path from leading to where the header stands, and then the header is lost, since no header is the
text of a manifest.
-/

namespace Exposure

variable {t t' : FileTree} {path text directory : String}

/-! ## Headers and manifests -/

theorem head?_toList_append {s l : String} (h : s.toList ≠ []) :
    (s ++ l).toList.head? = s.toList.head? := by
  rw [String.toList_append, List.head?_append_of_ne_nil _ h]

/-- A manifest opens a brace. -/
theorem Surface.head?_manifest (s : Surface) : s.manifest.contents.toList.head? = some '\x7b' := by
  simp only [manifest, manifestTree, Json.Tree.pretty, Json.prettyEntries, Json.onLines,
    List.isEmpty_cons, Bool.false_eq_true, if_false, String.append_assoc]
  rw [head?_toList_append (by decide)]
  decide

namespace HeaderOptions

variable {o : HeaderOptions} {paths : List String} {table : InstantiationTable}

theorem head?_includeLine (path : String) : (o.includeLine path).toList.head? = some '#' := by
  simpa [startsInclude] using startsInclude_includeLine (o := o) path

theorem head?_aliasLine (r : Instantiation) : (o.aliasLine r).toList.head? = some ' ' := by
  unfold aliasLine
  simp only [String.append_assoc]
  cases o.aliasStyle
  · rw [head?_toList_append (by decide)]
    decide
  · rw [head?_toList_append (by decide)]
    decide

theorem head?_openLine (h : o.scopes ≠ []) : o.openLine.toList.head? = some 'n' := by
  obtain ⟨l, hl⟩ := exists_openLine_eq h
  rw [hl, head?_toList_append (by decide)]
  decide

/-- The first line of a header includes a file, opens the namespaces or declares an alias. -/
theorem exists_head?_of_head?_lines {l : String} (h : (o.lines paths table).head? = some l) :
    ∃ c ∈ ['#', 'n', ' '], l.toList.head? = some c := by
  rw [lines_eq_append] at h
  cases paths with
  | cons path paths =>
      obtain rfl : o.includeLine path = l := by simpa using h
      exact ⟨'#', by simp, head?_includeLine path⟩
  | nil =>
      rw [List.map_nil, List.nil_append, tailLines] at h
      cases hrows : table.rows with
      | nil => simp [InstantiationTable.isEmpty, hrows] at h
      | cons r rs =>
          by_cases hscopes : o.scopes = []
          · obtain rfl : o.aliasLine r = l := by
              simpa [InstantiationTable.isEmpty, hrows, blockLines, inScopes, hscopes] using h
            exact ⟨' ', by simp, head?_aliasLine r⟩
          · obtain rfl : o.openLine = l := by
              simpa [InstantiationTable.isEmpty, hrows, blockLines, inScopes, hscopes] using h
            exact ⟨'n', by simp, head?_openLine hscopes⟩

/-- A header opens no brace. -/
theorem head?_ne_of_generate {header : String} (h : o.generate paths table = .ok header) :
    header.toList.head? ≠ some '\x7b' := by
  obtain ⟨-, rfl⟩ := (o.generate_eq_ok_iff paths table header).mp h
  cases hlines : o.lines paths table with
  | nil => simp [unlines]
  | cons l ls =>
      obtain ⟨c, hc, hl⟩ := exists_head?_of_head?_lines (by rw [hlines, List.head?_cons])
      have hne : l.toList ≠ [] := by
        rintro hnil
        rw [hnil] at hl
        cases hl
      rw [toList_unlines_cons, List.head?_append_of_ne_nil _ hne, hl]
      rintro ⟨⟩
      revert hc
      decide

end HeaderOptions

/-- No manifest is a header. -/
theorem Surface.manifest_ne_header (s : Surface) {o : HeaderOptions} {paths : List String}
    {table : InstantiationTable} {header : String} (h : o.generate paths table = .ok header) :
    s.manifest.contents ≠ header := by
  rintro rfl
  exact HeaderOptions.head?_ne_of_generate h s.head?_manifest

namespace Configuration

variable {c : Configuration} {report : PassReport}

/-! ## The parts of a pass that succeeds -/

section Parts

variable {σ : Type} [FileSystem (StateM σ)] {frontEnd : FrontEnd (StateM σ)}
  {backend : Backend (StateM σ)} {w w' : σ}

theorem exists_of_generateHeader_eq_ok {header : String}
    (h : c.generateHeader.runIn w = (.ok header, w')) :
    ∃ paths table, c.headerOptions.generate paths table = .ok header := by
  obtain ⟨⟨policy, table⟩, w₁, -, h⟩ := PassM.exists_of_runIn_bind_eq_ok h
  obtain ⟨paths, w₂, -, h⟩ := PassM.exists_of_runIn_bind_eq_ok h
  exact ⟨paths, table, (PassM.runIn_check_eq_ok_iff.mp h).1⟩

/-- Every part of a pass that succeeds has succeeded with what the report says. -/
theorem exists_of_run_eq_ok (h : (c.run frontEnd backend).runIn w = (.ok report, w')) :
    ∃ w₀ w₁ w₂ w₃, c.generateHeader.runIn w = (.ok report.header, w₀) ∧
      (c.writeHeader report.header).runIn w₀ = (.ok report.headerPath, w₁) ∧
      (frontEnd ⟨report.header, report.headerPath, c.resolvedIncludePaths⟩).run w₁ =
        (.ok report.catalog, w₂) ∧
      (backend ⟨c.moduleName, report.catalog, report.resolution⟩).run w₂ =
        (.ok report.artifacts, w₃) ∧
      (c.writeArtifacts report.artifacts).runIn w₃ = (.ok report.artifactPaths, w') := by
  obtain ⟨⟨policy, table⟩, w₁, hvalidate, h⟩ := PassM.exists_of_runIn_bind_eq_ok h
  obtain ⟨header, w₂, hheader, h⟩ := PassM.exists_of_runIn_bind_eq_ok h
  obtain ⟨headerPath, w₃, hwrite, h⟩ := PassM.exists_of_runIn_bind_eq_ok h
  obtain ⟨catalog, w₄, hparse, h⟩ := PassM.exists_of_runIn_bind_eq_ok h
  obtain ⟨artifacts, w₅, hemit, h⟩ := PassM.exists_of_runIn_bind_eq_ok h
  obtain ⟨artifactPaths, w₆, hartifacts, h⟩ := PassM.exists_of_runIn_bind_eq_ok h
  cases h
  refine ⟨w₂, w₃, w₄, w₅, ?_, hwrite, PassM.runIn_attempt_eq_ok_iff.mp hparse,
    PassM.runIn_attempt_eq_ok_iff.mp hemit, hartifacts⟩
  exact (PassM.runIn_bind_of_ok hvalidate).trans hheader

end Parts

/-! ## Writing -/

theorem fileAt_of_writeFile_bind_eq_ok {α : Type} {wrap : FileError → PassError} {a b : α}
    (h : (do PassM.attempt wrap (FileSystem.writeFile path text); pure a :
      PassM (StateM FileTree) α).runIn t = (.ok b, t')) :
    a = b ∧ t'.fileAt (t'.placeOf path) = some text := by
  obtain ⟨_, t₁, hwrite, h⟩ := PassM.exists_of_runIn_bind_eq_ok h
  cases h
  have hrun := PassM.runIn_attempt_eq_ok_iff.mp hwrite
  obtain ⟨hplace, hfile⟩ := FileTree.fileAt_of_writeFile_ok hrun
  rw [hplace, hfile, Function.update_self]
  exact ⟨rfl, rfl⟩

/-- A header that was written is where it was written to. -/
theorem fileAt_of_writeHeader_eq_ok {header : String}
    (h : (c.writeHeader header).runIn t = (.ok (some path), t')) :
    t'.fileAt (t'.placeOf path) = some header := by
  rw [writeHeader] at h
  split at h
  · cases h
  · dsimp only at h
    split at h
    · obtain ⟨-, t₁, -, h⟩ := PassM.exists_of_runIn_bind_eq_ok h
      obtain ⟨hpath, hfile⟩ := fileAt_of_writeFile_bind_eq_ok h
      cases hpath
      exact hfile
    · obtain ⟨hpath, hfile⟩ := fileAt_of_writeFile_bind_eq_ok h
      cases hpath
      exact hfile

/-- The files of artifacts, if these are written. -/
def artifactFiles (c : Configuration) (artifacts : List Artifact) : List (String × String) :=
  c.artifactDirectory?.toList.flatMap fun directory => artifacts.map (artifactFile directory)

/-- Artifacts that were written are files, one after the other. -/
theorem of_mapM_writeArtifact_eq_ok {artifacts : List Artifact} {paths : List String}
    (h : (artifacts.mapM (writeArtifact directory)).runIn t = (.ok paths, t')) :
    paths = (artifacts.map (artifactFile directory)).map Prod.fst ∧ t'.placeOf = t.placeOf ∧
      t'.fileAt = t.filesAfter (artifacts.map (artifactFile directory)) := by
  induction artifacts generalizing t paths with
  | nil =>
      cases h
      exact ⟨rfl, rfl, rfl⟩
  | cons a artifacts ih =>
      rw [List.mapM_cons] at h
      obtain ⟨path, t₁, ha, h⟩ := PassM.exists_of_runIn_bind_eq_ok h
      obtain ⟨rest, t₂, hrest, h⟩ := PassM.exists_of_runIn_bind_eq_ok h
      cases h
      obtain ⟨hplace, ⟨hpath, hfile⟩ | ⟨e, hpath, -⟩⟩ := writeArtifact_cases ha
      · cases hpath
        obtain ⟨rfl, hplace', hfiles⟩ := ih hrest
        refine ⟨rfl, hplace'.trans hplace, ?_⟩
        rw [hfiles, List.map_cons]
        exact (FileTree.filesAfter_cons hplace hfile _).symm
      · cases hpath

theorem of_writeArtifacts_eq_ok {artifacts : List Artifact} {paths : List String}
    (h : (c.writeArtifacts artifacts).runIn t = (.ok paths, t')) :
    paths = (c.artifactFiles artifacts).map Prod.fst ∧ t'.placeOf = t.placeOf ∧
      t'.fileAt = t.filesAfter (c.artifactFiles artifacts) := by
  rw [writeArtifacts] at h
  rw [artifactFiles]
  split at h
  · next hdirectory =>
    cases h
    rw [hdirectory]
    exact ⟨rfl, rfl, rfl⟩
  · next directory hdirectory =>
    rw [hdirectory, Option.toList_some, List.flatMap_singleton]
    exact of_mapM_writeArtifact_eq_ok h

/-! ## The files of a pass with the manifest -/

/-- What the files hold after a pass with the manifest that succeeds. -/
structure OutputsHold (c : Configuration) (frontEnd : FrontEnd (StateM FileTree))
    (report : PassReport) (t' : FileTree) : Prop where
  /-- Each path of an artifact leads to the contents of the artifact. -/
  artifacts : ∀ (i : Nat) (path : String), report.artifactPaths[i]? = some path →
    ∃ a, report.artifacts[i]? = some a ∧ t'.fileAt (t'.placeOf path) = some a.contents
  /-- The path of the header leads to the header when the front end is asked.  When it still does
  behind the front end, then it does in the end exactly if no path of an artifact leads there. -/
  header : ∀ path, report.headerPath = some path →
    ∃ t₁ t₂, t₁.fileAt (t₁.placeOf path) = some report.header ∧
      (frontEnd ⟨report.header, some path, c.resolvedIncludePaths⟩).run t₁ =
        (.ok report.catalog, t₂) ∧
      (t₂.fileAt (t₂.placeOf path) = some report.header →
        (t'.fileAt (t'.placeOf path) = some report.header ↔
          ∀ p ∈ report.artifactPaths, t'.placeOf p ≠ t'.placeOf path))

/-- What writing the manifest changes: the manifest is where its path leads, if it is written. -/
theorem of_writeArtifacts_singleton_eq_ok {a : Artifact} {paths : List String}
    (h : (c.writeArtifacts [a]).runIn t = (.ok paths, t')) :
    t'.placeOf = t.placeOf ∧
      (c.artifactDirectory? = none ∧ paths = [] ∧ t'.fileAt = t.fileAt ∨
        ∃ directory, c.artifactDirectory? = some directory ∧
          paths = [Path.join directory a.name] ∧
          t'.fileAt = Function.update t.fileAt (t.placeOf (Path.join directory a.name))
            (some a.contents)) := by
  obtain ⟨rfl, hplace, hfiles⟩ := of_writeArtifacts_eq_ok h
  refine ⟨hplace, ?_⟩
  rw [artifactFiles] at hfiles ⊢
  cases hdirectory : c.artifactDirectory? with
  | none =>
      rw [hdirectory] at hfiles
      exact .inl ⟨rfl, rfl, hfiles⟩
  | some directory =>
      rw [hdirectory] at hfiles
      exact .inr ⟨directory, rfl, rfl, hfiles⟩

/-- The pass with the manifest that succeeds writes just the manifest behind the front end. -/
theorem exists_of_run_manifest_eq_ok {frontEnd : FrontEnd (StateM FileTree)}
    (h : (c.run frontEnd .manifest).runIn t = (.ok report, t')) :
    ∃ t₀ t₁ t₂, c.generateHeader.runIn t = (.ok report.header, t₀) ∧
      (c.writeHeader report.header).runIn t₀ = (.ok report.headerPath, t₁) ∧
      (frontEnd ⟨report.header, report.headerPath, c.resolvedIncludePaths⟩).run t₁ =
        (.ok report.catalog, t₂) ∧
      report.artifacts = [Surface.manifest ⟨c.moduleName, report.catalog, report.resolution⟩] ∧
      (c.writeArtifacts report.artifacts).runIn t₂ = (.ok report.artifactPaths, t') := by
  obtain ⟨t₀, t₁, t₂, t₃, hgenerate, hwrite, hparse, hemit, hemission⟩ := exists_of_run_eq_ok h
  injection hemit with hartifacts hstate
  injection hartifacts with hartifacts
  subst hstate
  exact ⟨t₀, t₁, t₂, hgenerate, hwrite, hparse, hartifacts.symm, hemission⟩

/-- A pass with the manifest that succeeds leaves the manifest where it was written to, and loses
the header exactly when the manifest was written to the same place. -/
theorem run_manifest_outputsHold {frontEnd : FrontEnd (StateM FileTree)}
    (h : (c.run frontEnd .manifest).runIn t = (.ok report, t')) :
    OutputsHold c frontEnd report t' := by
  obtain ⟨t₀, t₁, t₂, hgenerate, hwrite, hparse, hartifacts, hemission⟩ :=
    exists_of_run_manifest_eq_ok h
  obtain ⟨paths, table, hheader⟩ := exists_of_generateHeader_eq_ok hgenerate
  have hne := Surface.manifest_ne_header ⟨c.moduleName, report.catalog, report.resolution⟩ hheader
  generalize Surface.manifest ⟨c.moduleName, report.catalog, report.resolution⟩ = a
    at hartifacts hne
  rw [hartifacts] at hemission
  obtain ⟨hplace, ⟨-, hpaths, hfile⟩ | ⟨directory, -, hpaths, hfile⟩⟩ :=
    of_writeArtifacts_singleton_eq_ok hemission
  · refine ⟨fun i path hi => ?_, fun path hpath => ?_⟩
    · rw [hpaths] at hi
      cases hi
    · rw [hpath] at hwrite hparse
      refine ⟨t₁, t₂, fileAt_of_writeHeader_eq_ok hwrite, hparse, fun hkept => ?_⟩
      rw [hpaths, hplace, hfile]
      simp [hkept]
  · refine ⟨fun i path hi => ?_, fun path hpath => ?_⟩
    · rw [hpaths, List.getElem?_singleton] at hi
      obtain ⟨rfl, rfl⟩ : i = 0 ∧ Path.join directory a.name = path := by simpa using hi
      refine ⟨a, by rw [hartifacts, List.getElem?_cons_zero], ?_⟩
      rw [hplace, hfile, Function.update_self]
    · rw [hpath] at hwrite hparse
      refine ⟨t₁, t₂, fileAt_of_writeHeader_eq_ok hwrite, hparse, fun hkept => ?_⟩
      rw [hpaths, hplace, hfile, List.forall_mem_singleton]
      by_cases hsame : t₂.placeOf path = t₂.placeOf (Path.join directory a.name)
      · rw [hsame, Function.update_self]
        simpa using hne
      · rw [Function.update_of_ne hsame]
        simpa [hkept] using Ne.symm hsame

/-- A header beside the manifest is kept. -/
theorem run_manifest_outputsHold_of_siblings :
    let c : Configuration := { output := { header := some "gen/all.h", artifacts := some "gen" } }
    let frontEnd : FrontEnd (StateM FileTree) := fun _ => pure (.ok .empty)
    let t := FileTree.empty ["work"]
    ∃ report t', (c.run frontEnd .manifest).runIn t = (.ok report, t') ∧
      OutputsHold c frontEnd report t' ∧ t'.fileAt ["work", "gen", "all.h"] = some "" := by
  intro c frontEnd t
  have hnone : (c.run frontEnd .manifest).failure? t = none := by decide +kernel
  obtain ⟨report, hrun⟩ := PassM.exists_of_failure?_eq_none hnone
  exact ⟨report, _, hrun, run_manifest_outputsHold hrun, by decide +kernel⟩

/-- A pass that succeeds with the path of a manifest as the path of its header loses the header. -/
theorem run_manifest_overwrites_header :
    let c : Configuration := {
      headers := ["a.h"]
      output := { header := some "bindings.manifest.json", artifacts := some "." } }
    let frontEnd : FrontEnd (StateM FileTree) := fun _ => pure (.ok .empty)
    let t := FileTree.empty ["work"]
    ∃ report t', (c.run frontEnd .manifest).runIn t = (.ok report, t') ∧
      report.headerPath = some "bindings.manifest.json" ∧ report.header = "#include <a.h>\n" ∧
      t'.fileAt (t'.placeOf "bindings.manifest.json") ≠ some "#include <a.h>\n" := by
  intro c frontEnd t
  have hnone : (c.run frontEnd .manifest).failure? t = none := by decide +kernel
  have hreport : ((c.run frontEnd .manifest).runIn t).1.toOption.map
      (fun r => (r.headerPath, r.header)) =
        some (some "bindings.manifest.json", "#include <a.h>\n") := by decide +kernel
  obtain ⟨report, hrun⟩ := PassM.exists_of_failure?_eq_none hnone
  rw [hrun] at hreport
  obtain ⟨hpath, hheader⟩ := Prod.mk.inj (Option.some.inj hreport)
  exact ⟨report, _, hrun, hpath, hheader, by decide +kernel⟩

end Configuration

end Exposure
