import Exposure.Proofs.File.Footprint
import Exposure.Proofs.Pass.Steps

/-!
# The events of a pass

What happens in a pass is a list of events: operations on files and the requests to the front end
and the backend, each with the answer.  Events lead from one state to another.  Performing steps is
a list of events of which at most the last is a failure, and changes only what stands where the
paths of the steps lead.
-/

namespace Exposure

/-- Something that happens in a pass, with the answer to it. -/
inductive PassEvent where
  | file (op : FileOp) (answer : Except FileError Unit)
  | parse (request : ParseRequest) (answer : Except ParseError Catalog)
  | emit (surface : Surface) (answer : Except EmitError (List Artifact))

namespace PassEvent

/-- Whether the front end is asked. -/
def isParse : PassEvent → Bool
  | parse _ _ => true
  | _ => false

/-- Whether the backend is asked. -/
def isEmit : PassEvent → Bool
  | emit _ _ => true
  | _ => false

end PassEvent

/-- The event that a step is done. -/
def FileStep.done (s : FileStep) : PassEvent := .file s.op (.ok ())

/-- The event that a step fails. -/
def FileStep.failed (s : FileStep) (e : FileError) : PassEvent := .file s.op (.error e)

/-- What steps come to: all are done, or one fails behind others that are done. -/
inductive StepsTo : List FileStep → List PassEvent → Except PassError Unit → Prop
  | allDone (ss : List FileStep) : StepsTo ss (ss.map FileStep.done) (.ok ())
  | oneFailed (before : List FileStep) (s : FileStep) (after : List FileStep) (e : FileError) :
      StepsTo (before ++ s :: after) (before.map FileStep.done ++ [s.failed e])
        (.error (s.failure e))

/-! ## Steps -/

section Steps

variable {ss : List FileStep} {s : FileStep} {es : List PassEvent} {r : Except PassError Unit}
  {e : PassError}

theorem StepsTo.cons (h : StepsTo ss es r) (s : FileStep) : StepsTo (s :: ss) (s.done :: es) r := by
  cases h with
  | allDone => exact .allDone (s :: ss)
  | oneFailed before t after e => exact .oneFailed (s :: before) t after e

theorem StepsTo.eq_map_done (h : StepsTo ss es (.ok ())) : es = ss.map FileStep.done := by
  cases h
  rfl

/-- A failure is that of one of the steps. -/
theorem StepsTo.exists_failure (h : StepsTo ss es (.error e)) :
    ∃ s ∈ ss, ∃ e', e = s.failure e' := by
  cases h with
  | oneFailed before s after e' => exact ⟨s, by simp, e', rfl⟩

theorem StepsTo.countP_eq_zero {q : PassEvent → Bool} (h : StepsTo ss es r)
    (hfile : ∀ op answer, q (.file op answer) = false) : es.countP q = 0 := by
  cases h <;> simp [List.countP_eq_zero, FileStep.done, FileStep.failed, hfile]

end Steps

/-! ## From states to events -/

section Events

variable {σ : Type} [FileSystem (StateM σ)]

/-- An event happens in one state and leaves another: the answer is that of the one who is asked. -/
def PassEvent.Happens (frontEnd : FrontEnd (StateM σ)) (backend : Backend (StateM σ)) (w w' : σ) :
    PassEvent → Prop
  | file op answer => (op.perform : StateM σ _).run w = (answer, w')
  | parse request answer => (frontEnd request).run w = (answer, w')
  | emit surface answer => (backend surface).run w = (answer, w')

/-- Events happen one after the other. -/
inductive Performs (frontEnd : FrontEnd (StateM σ)) (backend : Backend (StateM σ)) :
    σ → List PassEvent → σ → Prop
  | nil (w : σ) : Performs frontEnd backend w [] w
  | cons {w w₁ w' : σ} {e : PassEvent} {es : List PassEvent}
      (head : e.Happens frontEnd backend w w₁) (tail : Performs frontEnd backend w₁ es w') :
      Performs frontEnd backend w (e :: es) w'

variable {frontEnd : FrontEnd (StateM σ)} {backend : Backend (StateM σ)} {w w' : σ}
  {es es' : List PassEvent} {ss : List FileStep} {r : Except PassError Unit}

theorem performs_append_iff :
    Performs frontEnd backend w (es ++ es') w' ↔
      ∃ w₁, Performs frontEnd backend w es w₁ ∧ Performs frontEnd backend w₁ es' w' := by
  constructor
  · intro h
    induction es generalizing w with
    | nil => exact ⟨w, .nil w, h⟩
    | cons e es ih =>
        cases h with
        | cons head tail =>
            obtain ⟨w₁, hes, hes'⟩ := ih tail
            exact ⟨w₁, .cons head hes, hes'⟩
  · rintro ⟨w₁, hes, hes'⟩
    induction hes with
    | nil w => exact hes'
    | cons head tail ih => exact .cons head (ih hes')

theorem happens_parse {request : ParseRequest} {answer : Except ParseError Catalog}
    (h : (frontEnd request).run w = (answer, w')) :
    (PassEvent.parse request answer).Happens frontEnd backend w w' := h

theorem happens_emit {surface : Surface} {answer : Except EmitError (List Artifact)}
    (h : (backend surface).run w = (answer, w')) :
    (PassEvent.emit surface answer).Happens frontEnd backend w w' := h

/-- Steps are performed as events. -/
theorem exists_stepsTo (frontEnd : FrontEnd (StateM σ)) (backend : Backend (StateM σ))
    (h : (PassM.performAll ss).runIn w = (r, w')) :
    ∃ es, Performs frontEnd backend w es w' ∧ StepsTo ss es r := by
  induction ss generalizing w with
  | nil =>
      cases h
      exact ⟨[], .nil w', .allDone []⟩
  | cons s ss ih =>
      rw [PassM.performAll_cons] at h
      rcases hop : (s.op.perform : StateM σ _).run w with ⟨answer, w₁⟩
      cases answer with
      | error e =>
          rw [PassM.perform, PassM.runIn_attempt_bind_of_error hop] at h
          cases h
          exact ⟨[s.failed e], .cons hop (.nil w'), .oneFailed [] s ss e⟩
      | ok =>
          rw [PassM.perform, PassM.runIn_attempt_bind_of_ok hop] at h
          obtain ⟨es, hes, hsteps⟩ := ih h
          exact ⟨s.done :: es, .cons hop hes, hsteps.cons s⟩

/-- Steps in front of something else: one fails, and so does the pass, or the rest runs behind
them. -/
theorem exists_stepsTo_of_bind {α : Type} {x : PassM (StateM σ) α} {r : Except PassError α}
    (frontEnd : FrontEnd (StateM σ)) (backend : Backend (StateM σ))
    (h : (PassM.performAll ss >>= fun _ => x).runIn w = (r, w')) :
    ∃ es w₁, Performs frontEnd backend w es w₁ ∧
      ((∃ e, StepsTo ss es (.error e) ∧ r = .error e ∧ w₁ = w') ∨
        StepsTo ss es (.ok ()) ∧ x.runIn w₁ = (r, w')) := by
  rcases hsteps : (PassM.performAll ss).runIn w with ⟨r₁, w₁⟩
  obtain ⟨es, hes, hto⟩ := exists_stepsTo frontEnd backend hsteps
  cases r₁ with
  | error e =>
      rw [PassM.runIn_bind_of_error hsteps] at h
      cases h
      exact ⟨es, w', hes, .inl ⟨e, hto, rfl, rfl⟩⟩
  | ok =>
      rw [PassM.runIn_bind_of_ok hsteps] at h
      exact ⟨es, w₁, hes, .inr ⟨hto, h⟩⟩

/-- Steps that are all done are performed without a failure. -/
theorem Performs.runIn_performAll (h : Performs frontEnd backend w (ss.map FileStep.done) w') :
    (PassM.performAll ss).runIn w = (.ok (), w') := by
  induction ss generalizing w with
  | nil =>
      cases h
      rfl
  | cons s ss ih =>
      cases h with
      | cons head tail =>
          rw [PassM.performAll_cons, PassM.perform, PassM.runIn_attempt_bind_of_ok head]
          exact ih tail

/-! ## What steps change -/

section Changes

variable {κ ε : Type} {entry : σ → κ → ε} {place : σ → String → κ}

theorem FileSystem.Confined.perform (h : FileSystem.Confined entry place) (op : FileOp) :
    FileSystem.Touches entry place op.paths (op.perform : StateM σ _) := by
  cases op with
  | createDirectories path => exact h.createDirectories path
  | writeFile path text => exact h.writeFile path text

/-- Steps change only what stands where their paths lead. -/
theorem Performs.entry_eq (hfs : FileSystem.Confined entry place)
    (h : Performs frontEnd backend w (ss.map FileStep.done) w') {k : κ}
    (hk : ∀ s ∈ ss, ∀ path ∈ s.op.paths, k ≠ place w path) : entry w' k = entry w k := by
  induction ss generalizing w with
  | nil =>
      cases h
      rfl
  | cons s ss ih =>
      obtain ⟨hs, hss⟩ := List.forall_mem_cons.mp hk
      -- paths lead where they led before the step, so the places to keep are still the same
      cases h with
      | @cons _ w₁ _ _ _ head tail =>
          have hw₁ : ((s.op.perform : StateM σ _).run w).2 = w₁ := congrArg Prod.snd head
          obtain ⟨hplace, hentry⟩ := hfs.perform s.op w
          rw [hw₁] at hplace hentry
          exact (ih tail (hplace ▸ hss)).trans (hentry k hs)

end Changes

end Events

end Exposure
