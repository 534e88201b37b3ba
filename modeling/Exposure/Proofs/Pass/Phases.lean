import Exposure.Proofs.Pass.Events

/-!
# The phases of a pass

Rendering the header has no events.  After it come the steps for the header, one request to the
front end, one request to the backend and the steps for the artifacts; the first failure is the last
event, and the pass fails with it.
-/

namespace Exposure

/-- What the front end is asked about a header. -/
def Configuration.parseRequest (c : Configuration) (header : String) : ParseRequest where
  header
  headerPath := c.output.header.map c.resolvePath
  includePaths := c.includePaths.map c.resolvePath

/-- What a pass with a rendered header comes to, by its events. -/
inductive Passes (c : Configuration) (policy : Policy) (header : String) :
    List PassEvent → Except PassError PassReport → Prop
  | headerFails {es e} (hheader : StepsTo (c.headerSteps header) es (.error e)) :
      Passes c policy header es (.error e)
  | parseFails {es e} (hheader : StepsTo (c.headerSteps header) es (.ok ())) :
      Passes c policy header (es ++ [.parse (c.parseRequest header) (.error e)])
        (.error (.parse e))
  | emitFails {es e} (catalog : Catalog) (hheader : StepsTo (c.headerSteps header) es (.ok ())) :
      Passes c policy header
        (es ++ [.parse (c.parseRequest header) (.ok catalog),
          .emit ⟨c.moduleName, catalog, resolve catalog policy⟩ (.error e)])
        (.error (.emit e))
  | emissionFails {es es' catalog artifacts e}
      (hheader : StepsTo (c.headerSteps header) es (.ok ()))
      (hemission : StepsTo (c.emissionSteps artifacts) es' (.error e)) :
      Passes c policy header
        (es ++ [.parse (c.parseRequest header) (.ok catalog),
          .emit ⟨c.moduleName, catalog, resolve catalog policy⟩ (.ok artifacts)] ++ es')
        (.error e)
  | succeeds {es es' catalog artifacts} (hheader : StepsTo (c.headerSteps header) es (.ok ()))
      (hemission : StepsTo (c.emissionSteps artifacts) es' (.ok ())) :
      Passes c policy header
        (es ++ [.parse (c.parseRequest header) (.ok catalog),
          .emit ⟨c.moduleName, catalog, resolve catalog policy⟩ (.ok artifacts)] ++ es')
        (.ok {
          header, catalog, artifacts
          headerPath := c.output.header.map c.resolvePath
          resolution := resolve catalog policy
          artifactPaths := c.emissionPaths artifacts })

namespace Configuration

variable {c : Configuration} {header : String} {artifacts : List Artifact} {es : List PassEvent}
  {e : PassError}

/-- The path of the header and the directories above it, if the header is written. -/
def headerFootprint (c : Configuration) : List String :=
  (c.output.header.map c.resolvePath).toList.flatMap fun path =>
    path :: (Path.parent? path).toList.flatMap fun directory =>
      FileSystem.ancestors directory.length directory

theorem mem_headerFootprint {s : FileStep} (h : s ∈ c.headerSteps header) {path : String}
    (hpath : path ∈ s.op.paths) : path ∈ c.headerFootprint := by
  obtain ⟨target, htarget, h⟩ := List.mem_flatMap.mp h
  refine List.mem_flatMap.mpr ⟨target, htarget, ?_⟩
  obtain ⟨directory, hdirectory, rfl⟩ | rfl := FileStep.mem_toWrite.mp h
  · refine List.mem_cons_of_mem _ (List.mem_flatMap.mpr ⟨directory, ?_, hpath⟩)
    exact Option.mem_toList.mpr hdirectory
  · obtain rfl := List.mem_singleton.mp hpath
    exact List.mem_cons_self

/-- The header fails for a file. -/
theorem exists_of_headerSteps_error (h : StepsTo (c.headerSteps header) es (.error e)) :
    ∃ path e', e = .file path e' := by
  obtain ⟨s, hs, e', rfl⟩ := h.exists_failure
  obtain ⟨path, -, hs⟩ := List.mem_flatMap.mp hs
  obtain ⟨directory, -, rfl⟩ | rfl := FileStep.mem_toWrite.mp hs
  · exact ⟨directory, e', rfl⟩
  · exact ⟨path, e', rfl⟩

/-- The artifacts fail for one that cannot be written. -/
theorem exists_of_emissionSteps_error (h : StepsTo (c.emissionSteps artifacts) es (.error e)) :
    ∃ path e', e = .emit (.write path e') := by
  obtain ⟨s, hs, e', rfl⟩ := h.exists_failure
  obtain ⟨directory, -, hs⟩ := List.mem_flatMap.mp hs
  obtain ⟨a, -, hs⟩ := List.mem_flatMap.mp hs
  refine ⟨Path.join directory a.name, e', ?_⟩
  obtain ⟨above, -, rfl⟩ | rfl := FileStep.mem_toWrite.mp hs <;> rfl

end Configuration

namespace Passes

variable {c : Configuration} {policy : Policy} {header : String} {es : List PassEvent}
  {r : Except PassError PassReport} {e : PassError}

/-- At most one event is a request of one kind. -/
theorem countP_le_one {q : PassEvent → Bool} (h : Passes c policy header es r)
    (hfile : ∀ op answer, q (.file op answer) = false)
    (hone : ∀ request answer surface answer',
      q (.parse request answer) = false ∨ q (.emit surface answer') = false) :
    es.countP q ≤ 1 := by
  have hpair : ∀ request answer surface answer',
      [PassEvent.parse request answer, .emit surface answer'].countP q ≤ 1 := by
    intro request answer surface answer'
    rcases hone request answer surface answer' with hparse | hemit
    · rw [List.countP_cons_of_neg (by simp [hparse])]
      exact List.countP_le_length
    · rw [List.countP_cons, List.countP_cons_of_neg (by simp [hemit]), List.countP_nil]
      split <;> omega
  cases h with
  | headerFails hheader =>
      rw [hheader.countP_eq_zero hfile]
      exact Nat.zero_le 1
  | parseFails hheader =>
      rw [List.countP_append, hheader.countP_eq_zero hfile, Nat.zero_add]
      exact List.countP_le_length
  | emitFails _ hheader =>
      rw [List.countP_append, hheader.countP_eq_zero hfile, Nat.zero_add]
      exact hpair _ _ _ _
  | emissionFails hheader hemission | succeeds hheader hemission =>
      rw [List.countP_append, List.countP_append, hheader.countP_eq_zero hfile,
        hemission.countP_eq_zero hfile, Nat.zero_add, Nat.add_zero]
      exact hpair _ _ _ _

/-- With a rendered header nothing is wrong with the configuration. -/
theorem not_isConfiguration (h : Passes c policy header es (.error e)) :
    e.isConfiguration = false := by
  cases h with
  | headerFails hheader =>
      obtain ⟨path, e', rfl⟩ := Configuration.exists_of_headerSteps_error hheader
      rfl
  | parseFails | emitFails => rfl
  | emissionFails _ hemission =>
      obtain ⟨path, e', rfl⟩ := Configuration.exists_of_emissionSteps_error hemission
      rfl

/-- Only the front end makes a pass fail as a front end does. -/
theorem eq_of_parse_error {p : ParseError} (h : Passes c policy header es (.error (.parse p))) :
    es = (c.headerSteps header).map FileStep.done ++
      [.parse (c.parseRequest header) (.error p)] := by
  cases h with
  | headerFails hheader =>
      obtain ⟨path, e', he⟩ := Configuration.exists_of_headerSteps_error hheader
      cases he
  | parseFails hheader => rw [hheader.eq_map_done]
  | emissionFails _ hemission =>
      obtain ⟨path, e', he⟩ := Configuration.exists_of_emissionSteps_error hemission
      cases he

end Passes

section Runs

variable {σ : Type} [FileSystem (StateM σ)] {frontEnd : FrontEnd (StateM σ)}
  {backend : Backend (StateM σ)} {w w' : σ}

/-! ## Runs -/

namespace Configuration

variable {c : Configuration} {policy : Policy} {table : InstantiationTable} {header : String}
  {e : PassError}

theorem quiet_headerPaths (c : Configuration)
    (hworking : ∀ w, ((FileSystem.workingDirectory : StateM σ _).run w).2 = w) :
    (c.headerPaths : PassM (StateM σ) _).Quiet := by
  have hlookup : ∀ path (g : String → List String), (do
      let working ← PassM.attempt (.file path) FileSystem.workingDirectory
      pure (g working) : PassM (StateM σ) _).Quiet := fun path g =>
    (PassM.quiet_attempt (fun _ => rfl) hworking).bind fun _ => PassM.quiet_pure _
  rw [headerPaths]
  split
  · exact PassM.quiet_pure _
  · split
    · exact hlookup _ _
    · split
      · exact PassM.quiet_pure _
      · exact hlookup _ _

/-- Rendering the header asks nobody and changes no files. -/
theorem quiet_generateHeader (c : Configuration)
    (hworking : ∀ w, ((FileSystem.workingDirectory : StateM σ _).run w).2 = w) :
    (c.generateHeader : PassM (StateM σ) _).Quiet :=
  (PassM.quiet_check (fun _ => rfl) _).bind fun _ =>
    (c.quiet_headerPaths hworking).bind fun _ => PassM.quiet_check (fun _ => rfl) _

/-- The part of a pass behind the rendering of the header. -/
def afterRendering (c : Configuration) (policy : Policy) (header : String)
    (frontEnd : FrontEnd (StateM σ)) (backend : Backend (StateM σ)) :
    PassM (StateM σ) PassReport := do
  let headerPath ← c.writeHeader header
  let catalog ← PassM.attempt .parse (frontEnd ⟨header, headerPath, c.resolvedIncludePaths⟩)
  let resolution := resolve catalog policy
  let artifacts ← PassM.attempt .emit (backend ⟨c.moduleName, catalog, resolution⟩)
  let artifactPaths ← c.writeArtifacts artifacts
  pure { header, headerPath, catalog, resolution, artifacts, artifactPaths }

/-- A pass fails as the rendering of its header does, and nobody is asked. -/
theorem run_of_generateHeader_eq_error (h : c.generateHeader.runIn w = (.error e, w')) :
    (c.run frontEnd backend).runIn w = (.error e, w') := by
  cases hvalidate : c.validate with
  | error e' =>
      rw [generateHeader, PassM.runIn_check_bind_of_error hvalidate] at h
      cases h
      exact PassM.runIn_check_bind_of_error hvalidate
  | ok checked =>
      rw [generateHeader, PassM.runIn_check_bind_of_ok hvalidate] at h
      rw [run, PassM.runIn_check_bind_of_ok hvalidate]
      exact PassM.runIn_bind_of_error h

/-- A pass whose header is rendered goes on with it. -/
theorem exists_run_of_generateHeader_eq_ok (h : c.generateHeader.runIn w = (.ok header, w')) :
    ∃ policy table, c.validate = .ok (policy, table) ∧
      ∀ frontEnd backend, (c.run frontEnd backend).runIn w =
        (c.afterRendering policy header frontEnd backend).runIn w' := by
  cases hvalidate : c.validate with
  | error e' =>
      rw [generateHeader, PassM.runIn_check_bind_of_error hvalidate] at h
      cases h
  | ok checked =>
      rw [generateHeader, PassM.runIn_check_bind_of_ok hvalidate] at h
      refine ⟨checked.1, checked.2, rfl, fun frontEnd backend => ?_⟩
      rw [run, PassM.runIn_check_bind_of_ok hvalidate]
      exact PassM.runIn_bind_of_ok h

/-- A pass with a rendered header runs through its phases. -/
theorem exists_passes {r : Except PassError PassReport}
    (h : (c.afterRendering policy header frontEnd backend).runIn w = (r, w')) :
    ∃ es, Performs frontEnd backend w es w' ∧ Passes c policy header es r := by
  simp only [afterRendering, writeHeader_eq, writeArtifacts_eq, bind_assoc, pure_bind] at h
  -- one case for each place where the pass can stop, in their order
  obtain ⟨es, w₁, hes, ⟨e, hheader, rfl, rfl⟩ | ⟨hheader, h⟩⟩ :=
    exists_stepsTo_of_bind frontEnd backend h
  · exact ⟨es, hes, .headerFails hheader⟩
  obtain ⟨e, hparse, rfl⟩ | ⟨catalog, w₂, hparse, h⟩ := PassM.runIn_attempt_bind_cases h
  · refine ⟨_, performs_append_iff.mpr ⟨w₁, hes, ?_⟩, .parseFails hheader⟩
    exact .cons (happens_parse hparse) (.nil w')
  obtain ⟨e, hemit, rfl⟩ | ⟨artifacts, w₃, hemit, h⟩ := PassM.runIn_attempt_bind_cases h
  · refine ⟨_, performs_append_iff.mpr ⟨w₁, hes, ?_⟩, .emitFails catalog hheader⟩
    exact .cons (happens_parse hparse) (.cons (happens_emit hemit) (.nil w'))
  have hasked := performs_append_iff.mpr
    ⟨w₁, hes, .cons (happens_parse hparse) (.cons (happens_emit hemit) (.nil w₃))⟩
  obtain ⟨es', w₄, hes', ⟨e, hemission, rfl, rfl⟩ | ⟨hemission, h⟩⟩ :=
    exists_stepsTo_of_bind frontEnd backend h
  · exact ⟨_, performs_append_iff.mpr ⟨w₃, hasked, hes'⟩, .emissionFails hheader hemission⟩
  · cases h
    exact ⟨_, performs_append_iff.mpr ⟨w₃, hasked, hes'⟩, .succeeds hheader hemission⟩

end Configuration

/-! ## The phases -/

/-- A pass keeps to its phases.  Where nothing depends on what the front end or the backend is, it
was not asked. -/
structure InPhases {κ ε : Type} (entry : σ → κ → ε) (place : σ → String → κ) (c : Configuration)
    (frontEnd : FrontEnd (StateM σ)) (backend : Backend (StateM σ)) (w : σ) : Prop where
  /-- A configuration that is refused makes the pass fail before anything happens. -/
  refused : ∀ e, c.validate = .error e →
    (c.run frontEnd backend).runIn w = (.error (.configuration e), w)
  /-- So does a header that cannot be rendered. -/
  unrendered : ∀ e, (c.generateHeader.runIn w).1 = .error e →
    (c.run frontEnd backend).runIn w = (.error e, w)
  /-- Otherwise the events and the result are those of a pass with the rendered header, and neither
  the front end nor the backend is asked twice. -/
  rendered : ∀ header, (c.generateHeader.runIn w).1 = .ok header →
    ∃ policy table es, c.validate = .ok (policy, table) ∧
      Performs frontEnd backend w es ((c.run frontEnd backend).runIn w).2 ∧
      Passes c policy header es ((c.run frontEnd backend).runIn w).1 ∧
      es.countP PassEvent.isParse ≤ 1 ∧ es.countP PassEvent.isEmit ≤ 1
  /-- A pass that fails for its configuration has changed nothing and asked nobody. -/
  configuration_error : ∀ e w', (c.run frontEnd backend).runIn w = (.error e, w') →
    e.isConfiguration = true →
      w' = w ∧ ∀ frontEnd' backend', (c.run frontEnd' backend').runIn w = (.error e, w)
  /-- A pass that fails in the front end has written the header and changed nothing but the header
  and the directories above it before it asked the front end, passes the failure on and has not
  asked the backend. -/
  parse_error : ∀ e w', (c.run frontEnd backend).runIn w = (.error (.parse e), w') →
    ∃ header w₁, (c.generateHeader.runIn w).1 = .ok header ∧
      Performs frontEnd backend w ((c.headerSteps header).map FileStep.done) w₁ ∧
      (∀ k, (∀ path ∈ c.headerFootprint, k ≠ place w path) → entry w₁ k = entry w k) ∧
      (frontEnd (c.parseRequest header)).run w₁ = (.error e, w') ∧
      ∀ backend', (c.run frontEnd backend').runIn w = (.error (.parse e), w')

namespace Configuration

variable {κ ε : Type} {entry : σ → κ → ε} {place : σ → String → κ} {c : Configuration}

/-- The header is rendered where the pass starts, or it is not and the pass fails. -/
theorem generateHeader_cases (hfs : FileSystem.Confined entry place) (c : Configuration) (w : σ) :
    (∃ e, e.isParse = false ∧ c.generateHeader.runIn w = (.error e, w)) ∨
      ∃ header, c.generateHeader.runIn w = (.ok header, w) := by
  have hquiet := c.quiet_generateHeader hfs.workingDirectory
  cases hresult : (c.generateHeader.runIn w).1 with
  | error e =>
      exact .inl ⟨e, hquiet.isParse_eq_false w e hresult, Prod.ext hresult (hquiet.state_eq w)⟩
  | ok header => exact .inr ⟨header, Prod.ext hresult (hquiet.state_eq w)⟩

theorem configuration_error_unchanged (hfs : FileSystem.Confined entry place) {e : PassError}
    (h : (c.run frontEnd backend).runIn w = (.error e, w')) (he : e.isConfiguration = true) :
    w' = w ∧ ∀ frontEnd' backend', (c.run frontEnd' backend').runIn w = (.error e, w) := by
  obtain ⟨e', -, hgenerate⟩ | ⟨header, hgenerate⟩ := generateHeader_cases hfs c w
  · rw [run_of_generateHeader_eq_error hgenerate] at h
    cases h
    exact ⟨rfl, fun _ _ => run_of_generateHeader_eq_error hgenerate⟩
  · obtain ⟨policy, table, -, hrun⟩ := exists_run_of_generateHeader_eq_ok hgenerate
    rw [hrun] at h
    obtain ⟨es, -, hpasses⟩ := exists_passes h
    rw [hpasses.not_isConfiguration] at he
    cases he

theorem parse_error_unchanged (hfs : FileSystem.Confined entry place) {e : ParseError}
    (h : (c.run frontEnd backend).runIn w = (.error (.parse e), w')) :
    ∃ header w₁, (c.generateHeader.runIn w).1 = .ok header ∧
      Performs frontEnd backend w ((c.headerSteps header).map FileStep.done) w₁ ∧
      (∀ k, (∀ path ∈ c.headerFootprint, k ≠ place w path) → entry w₁ k = entry w k) ∧
      (frontEnd (c.parseRequest header)).run w₁ = (.error e, w') ∧
      ∀ backend', (c.run frontEnd backend').runIn w = (.error (.parse e), w') := by
  obtain ⟨e', hparse, hgenerate⟩ | ⟨header, hgenerate⟩ := generateHeader_cases hfs c w
  · rw [run_of_generateHeader_eq_error hgenerate] at h
    cases h
    cases hparse
  · obtain ⟨policy, table, -, hrun⟩ := exists_run_of_generateHeader_eq_ok hgenerate
    rw [hrun] at h
    obtain ⟨es, hes, hpasses⟩ := exists_passes h
    obtain rfl := hpasses.eq_of_parse_error
    obtain ⟨w₁, hheader, hasked⟩ := performs_append_iff.mp hes
    rcases hasked with _ | ⟨hparse, ⟨⟩⟩
    refine ⟨header, w₁, by rw [hgenerate], hheader, fun k hk => ?_, hparse, fun backend' => ?_⟩
    · exact hheader.entry_eq hfs fun s hs path hpath => hk path (mem_headerFootprint hs hpath)
    · rw [hrun, afterRendering, writeHeader_eq, bind_assoc,
        PassM.runIn_bind_of_ok hheader.runIn_performAll, pure_bind]
      exact PassM.runIn_attempt_bind_of_error hparse

/-- A pass keeps to its phases, for every configuration, front end, backend and state from which it
starts. -/
theorem run_inPhases (hfs : FileSystem.Confined entry place) (c : Configuration)
    (frontEnd : FrontEnd (StateM σ)) (backend : Backend (StateM σ)) (w : σ) :
    InPhases entry place c frontEnd backend w where
  refused := by
    intro e he
    exact PassM.runIn_check_bind_of_error he
  unrendered := by
    intro e he
    have hgenerate : c.generateHeader.runIn w = (.error e, w) :=
      Prod.ext he ((c.quiet_generateHeader hfs.workingDirectory).state_eq w)
    exact run_of_generateHeader_eq_error hgenerate
  rendered := by
    intro header hheader
    have hgenerate : c.generateHeader.runIn w = (.ok header, w) :=
      Prod.ext hheader ((c.quiet_generateHeader hfs.workingDirectory).state_eq w)
    obtain ⟨policy, table, hvalidate, hrun⟩ := exists_run_of_generateHeader_eq_ok hgenerate
    obtain ⟨es, hes, hpasses⟩ := exists_passes (hrun frontEnd backend).symm
    refine ⟨policy, table, es, hvalidate, hes, hpasses, ?_, ?_⟩
    · exact hpasses.countP_le_one (fun _ _ => rfl) fun _ _ _ _ => .inr rfl
    · exact hpasses.countP_le_one (fun _ _ => rfl) fun _ _ _ _ => .inl rfl
  configuration_error := fun _ _ => configuration_error_unchanged hfs
  parse_error := fun _ _ => parse_error_unchanged hfs

/-- A front end fails with the path that it was given, and there the header stands, below the
directory of the configuration. -/
theorem run_inPhases_of_failing_frontEnd :
    let c : Configuration := {
      headers := ["a.h"]
      output := { header := some "gen/probe.hpp" }
      directory := some "work" }
    let frontEnd : FrontEnd (StateM FileTree) := fun request =>
      pure (.error ⟨none, request.headerPath.getD ""⟩)
    let t : FileTree := ⟨[(["work"], .directory)], []⟩
    let r := (c.run frontEnd .manifest).runIn t
    FileSystem.Confined FileTree.find? FileTree.placeOf ∧
      InPhases FileTree.find? FileTree.placeOf c frontEnd .manifest t ∧
      r.1 = .error (.parse ⟨none, "work/gen/probe.hpp"⟩) ∧
      t.find? ["work", "gen", "probe.hpp"] = none ∧
      r.2.find? ["work", "gen", "probe.hpp"] = some (.file "#include <a.h>\n") := by
  intro c frontEnd t r
  have hfailure : (c.run frontEnd .manifest).failure? t =
      some (.parse ⟨none, "work/gen/probe.hpp"⟩) := by decide +kernel
  exact ⟨FileTree.confined, run_inPhases FileTree.confined _ _ _ _,
    congrArg Prod.fst (PassM.runIn_of_failure?_eq_some hfailure), by decide +kernel,
    by decide +kernel⟩

end Configuration

end Runs

end Exposure
