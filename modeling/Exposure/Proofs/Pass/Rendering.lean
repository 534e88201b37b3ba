import Exposure.Proofs.Instantiation.Precedence
import Exposure.Proofs.Pass.Running

/-!
# Rendering a header that was checked

A configuration is checked before a pass, with the same checks that come before a header is written.
So the header of a configuration that passed is refused by none of them: only the working directory
is asked for while it is rendered, and only that can fail.
-/

namespace Exposure

variable {σ α β : Type}

namespace PassM

variable {x : PassM (StateM σ) α} {f : α → PassM (StateM σ) β}

/-- A part of a pass that can only fail for a file. -/
def FailsOnlyForFiles (x : PassM (StateM σ) α) : Prop :=
  ∀ w e, (x.runIn w).1 = .error e → ∃ path cause, e = .file path cause

theorem failsOnlyForFiles_pure (a : α) : (pure a : PassM (StateM σ) α).FailsOnlyForFiles := by
  rintro w e ⟨⟩

theorem failsOnlyForFiles_attempt (path : String) (y : StateM σ (Except FileError α)) :
    (attempt (.file path) y).FailsOnlyForFiles := by
  intro w e he
  rw [runIn_attempt] at he
  cases hresult : (y.run w).1 with
  | ok a =>
      rw [hresult] at he
      cases he
  | error cause =>
      rw [hresult] at he
      cases he
      exact ⟨path, cause, rfl⟩

theorem FailsOnlyForFiles.bind (hx : x.FailsOnlyForFiles) (hf : ∀ a, (f a).FailsOnlyForFiles) :
    (x >>= f).FailsOnlyForFiles := by
  intro w e he
  rcases hrun : x.runIn w with ⟨e' | a, w'⟩
  · rw [runIn_bind_of_error hrun] at he
    cases he
    exact hx w e (by rw [hrun])
  · rw [runIn_bind_of_ok hrun] at he
    exact hf a w' e he

end PassM

namespace Configuration

variable {c : Configuration} {policy : Policy} {table : InstantiationTable}

/-- A configuration that passes hands back its table, which passes with its header options. -/
theorem check_of_validate_eq_ok (h : c.validate = .ok (policy, table)) :
    c.headerOptions.check table = .ok () := by
  unfold validate at h
  by_cases hblank : Text.blank c.moduleName = true
  · rw [if_pos hblank] at h
    cases h
  rw [if_neg hblank] at h
  cases hpolicy : c.policy with
  | error e =>
      rw [hpolicy] at h
      cases h
  | ok p =>
      cases hcheck : c.headerOptions.check c.table with
      | error e =>
          rw [hpolicy, hcheck] at h
          cases h
      | ok u =>
          rw [hpolicy, hcheck] at h
          cases h
          exact hcheck

/-- What passes the checks is rendered from the paths of the headers alone. -/
theorem renderHeader_of_check_eq_ok {m : Type → Type} [Monad m] [FileSystem m]
    (h : c.headerOptions.check table = .ok ()) :
    (c.renderHeader table : PassM m String) = c.headerPaths >>= fun paths =>
      pure (HeaderOptions.unlines (c.headerOptions.lines paths table)) := by
  have hgenerate (paths : List String) : c.headerOptions.generate paths table =
      .ok (HeaderOptions.unlines (c.headerOptions.lines paths table)) :=
    (c.headerOptions.generate_eq_ok_iff paths table _).mpr ⟨h, rfl⟩
  unfold renderHeader
  refine congrArg (c.headerPaths >>= ·) ?_
  funext paths
  rw [hgenerate]
  rfl

section Runs

variable [FileSystem (StateM σ)]

theorem failsOnlyForFiles_headerPaths (c : Configuration) :
    (c.headerPaths : PassM (StateM σ) _).FailsOnlyForFiles := by
  have hlookup (path : String) (g : String → List String) :
      (PassM.attempt (.file path) FileSystem.workingDirectory >>= fun working =>
        pure (g working) : PassM (StateM σ) _).FailsOnlyForFiles :=
    (PassM.failsOnlyForFiles_attempt path _).bind fun _ => PassM.failsOnlyForFiles_pure _
  rw [headerPaths]
  split
  · exact PassM.failsOnlyForFiles_pure _
  · split
    · exact hlookup _ _
    · split
      · exact PassM.failsOnlyForFiles_pure _
      · exact hlookup _ _

theorem failsOnlyForFiles_renderHeader (h : c.validate = .ok (policy, table)) :
    (c.renderHeader table : PassM (StateM σ) String).FailsOnlyForFiles := by
  rw [renderHeader_of_check_eq_ok (check_of_validate_eq_ok h)]
  exact (failsOnlyForFiles_headerPaths c).bind fun _ => PassM.failsOnlyForFiles_pure _

/-- The checks of a header are exact for all options, tables and paths, and the checks of a
configuration leave nothing for the rendering of its header to refuse. -/
theorem headerChecks_complete :
    (∀ (o : HeaderOptions) (t : InstantiationTable) (paths : List String),
      o.ChecksExactly t paths) ∧
    ∀ (c : Configuration) (policy : Policy) (table : InstantiationTable),
      c.validate = .ok (policy, table) →
        (c.renderHeader table : PassM (StateM σ) String).FailsOnlyForFiles := by
  constructor
  · intro o t paths
    exact o.checksExactly t paths
  · intro c policy table h
    exact failsOnlyForFiles_renderHeader h

end Runs

end Configuration

end Exposure
