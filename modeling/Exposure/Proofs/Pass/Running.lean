import Exposure.Pass.Run

/-!
# Running parts of a pass

A part of a pass in a state monad runs from a state: it succeeds or fails, and leaves a state.  What
follows a success runs from the state that it leaves, and nothing follows a failure.  A quiet part
asks nobody.
-/

namespace Exposure

variable {m : Type → Type} [Monad m]

namespace PassM

variable {σ α β ε : Type} {x : PassM (StateM σ) α} {f : α → PassM (StateM σ) β} {w w' : σ} {a : α}
  {e : PassError}

/-- An effect that has succeeded already is none. -/
theorem attempt_pure_ok [LawfulMonad m] (wrap : ε → PassError) (a : α) :
    (attempt wrap (pure (.ok a)) : PassM m α) = pure a := by
  apply ExceptT.ext
  rw [run_attempt, pure_bind]
  rfl

/-- What a part of a pass comes to from a state, and the state that it leaves. -/
def runIn (x : PassM (StateM σ) α) (w : σ) : Except PassError α × σ := x.run.run w

@[simp] theorem runIn_check (wrap : ε → PassError) (r : Except ε α) (w : σ) :
    (check wrap r : PassM (StateM σ) α).runIn w = (r.mapError wrap, w) := rfl

@[simp] theorem runIn_attempt (wrap : ε → PassError) (y : StateM σ (Except ε α)) (w : σ) :
    (attempt wrap y).runIn w = ((y.run w).1.mapError wrap, (y.run w).2) := rfl

/-- Why a part of a pass fails from a state, if it does. -/
def failure? (x : PassM (StateM σ) α) (w : σ) : Option PassError :=
  match (x.runIn w).1 with
  | .error e => some e
  | .ok _ => none

theorem runIn_of_failure?_eq_some (h : x.failure? w = some e) :
    x.runIn w = (.error e, (x.runIn w).2) := by
  rw [failure?] at h
  split at h
  · next e' he =>
    cases h
    exact Prod.ext he rfl
  · cases h

theorem exists_of_failure?_eq_none (h : x.failure? w = none) :
    ∃ a, x.runIn w = (.ok a, (x.runIn w).2) := by
  rw [failure?] at h
  split at h
  · cases h
  · next a ha => exact ⟨a, Prod.ext ha rfl⟩

/-- After a success the next part runs from where the first has stopped. -/
theorem runIn_bind_of_ok (h : x.runIn w = (.ok a, w')) : (x >>= f).runIn w = (f a).runIn w' := by
  rw [runIn, ExceptT.run_bind, StateT.run_bind, show x.run.run w = (.ok a, w') from h]
  rfl

/-- After a failure nothing runs. -/
theorem runIn_bind_of_error (h : x.runIn w = (.error e, w')) :
    (x >>= f).runIn w = (.error e, w') := by
  rw [runIn, ExceptT.run_bind, StateT.run_bind, show x.run.run w = (.error e, w') from h]
  rfl

/-- What succeeds has succeeded in both of its parts. -/
theorem exists_of_runIn_bind_eq_ok {b : β} (h : (x >>= f).runIn w = (.ok b, w')) :
    ∃ a w₁, x.runIn w = (.ok a, w₁) ∧ (f a).runIn w₁ = (.ok b, w') := by
  rcases hx : x.runIn w with ⟨e | a, w₁⟩
  · rw [runIn_bind_of_error hx] at h
    cases h
  · rw [runIn_bind_of_ok hx] at h
    exact ⟨a, w₁, rfl, h⟩

section Parts

variable {wrap : ε → PassError} {y : StateM σ (Except ε α)} {c : Except ε α} {e : ε}

theorem runIn_attempt_bind_of_ok (h : y.run w = (.ok a, w')) :
    (attempt wrap y >>= f).runIn w = (f a).runIn w' := by
  refine runIn_bind_of_ok ?_
  rw [runIn_attempt, h]
  rfl

theorem runIn_attempt_bind_of_error (h : y.run w = (.error e, w')) :
    (attempt wrap y >>= f).runIn w = (.error (wrap e), w') := by
  refine runIn_bind_of_error ?_
  rw [runIn_attempt, h]
  rfl

/-- An effect fails, and so does the pass, or the next part runs with what the effect gives. -/
theorem runIn_attempt_bind_cases {r : Except PassError β}
    (h : (attempt wrap y >>= f).runIn w = (r, w')) :
    (∃ e, y.run w = (.error e, w') ∧ r = .error (wrap e)) ∨
      ∃ a w₁, y.run w = (.ok a, w₁) ∧ (f a).runIn w₁ = (r, w') := by
  rcases hy : y.run w with ⟨e | a, w₁⟩
  · rw [runIn_attempt_bind_of_error hy] at h
    cases h
    exact .inl ⟨e, rfl, rfl⟩
  · rw [runIn_attempt_bind_of_ok hy] at h
    exact .inr ⟨a, w₁, rfl, h⟩

theorem runIn_check_bind_of_ok (h : c = .ok a) :
    (check wrap c >>= f).runIn w = (f a).runIn w := by
  refine runIn_bind_of_ok ?_
  rw [runIn_check, h]
  rfl

theorem runIn_check_bind_of_error (h : c = .error e) :
    (check wrap c >>= f).runIn w = (.error (wrap e), w) := by
  refine runIn_bind_of_error ?_
  rw [runIn_check, h]
  rfl

theorem mapError_eq_ok_iff : c.mapError wrap = .ok a ↔ c = .ok a := by
  cases c with
  | error e => exact iff_of_false nofun nofun
  | ok b =>
      constructor
      · rintro ⟨⟩
        rfl
      · rintro ⟨⟩
        rfl

/-- An effect succeeds in a pass exactly when it succeeds. -/
theorem runIn_attempt_eq_ok_iff :
    (attempt wrap y).runIn w = (.ok a, w') ↔ y.run w = (.ok a, w') := by
  rw [runIn_attempt, Prod.mk.injEq, mapError_eq_ok_iff]
  constructor
  · rintro ⟨hresult, hstate⟩
    exact Prod.ext hresult hstate
  · intro h
    rw [h]
    exact ⟨rfl, rfl⟩

theorem runIn_check_eq_ok_iff : (check wrap c).runIn w = (.ok a, w') ↔ c = .ok a ∧ w = w' := by
  rw [runIn_check, Prod.mk.injEq, mapError_eq_ok_iff]

end Parts

/-! ## Parts without events -/

/-- A part of a pass in which nobody is asked: it leaves every state as it is, and a failure of it
is not one of the front end. -/
structure Quiet (x : PassM (StateM σ) α) : Prop where
  state_eq : ∀ w, (x.runIn w).2 = w
  isParse_eq_false : ∀ w e, (x.runIn w).1 = .error e → e.isParse = false

theorem quiet_pure (a : α) : (pure a : PassM (StateM σ) α).Quiet := by
  refine ⟨fun _ => rfl, ?_⟩
  rintro w e ⟨⟩

theorem quiet_attempt {wrap : ε → PassError} (hwrap : ∀ e, (wrap e).isParse = false)
    {y : StateM σ (Except ε α)} (hy : ∀ w, (y.run w).2 = w) : (attempt wrap y).Quiet := by
  refine ⟨hy, fun w e he => ?_⟩
  rw [runIn_attempt] at he
  cases hr : (y.run w).1 with
  | error e' =>
      rw [hr] at he
      cases he
      exact hwrap e'
  | ok a =>
      rw [hr] at he
      cases he

theorem quiet_check {wrap : ε → PassError} (hwrap : ∀ e, (wrap e).isParse = false)
    (r : Except ε α) : (check wrap r : PassM (StateM σ) α).Quiet :=
  quiet_attempt (y := pure r) hwrap fun _ => rfl

theorem Quiet.bind (hx : x.Quiet) (hf : ∀ a, (f a).Quiet) : (x >>= f).Quiet := by
  have hrun : ∀ w, (∃ e, (x.runIn w).1 = .error e ∧ (x >>= f).runIn w = (.error e, w)) ∨
      ∃ a, (x >>= f).runIn w = (f a).runIn w := by
    intro w
    have hw := hx.state_eq w
    rcases h : x.runIn w with ⟨e | a, w'⟩
    · rw [h] at hw
      cases hw
      exact .inl ⟨e, rfl, runIn_bind_of_error h⟩
    · rw [h] at hw
      cases hw
      exact .inr ⟨a, runIn_bind_of_ok h⟩
  refine ⟨fun w => ?_, fun w e he => ?_⟩
  · obtain ⟨e, -, h⟩ | ⟨a, h⟩ := hrun w
    · rw [h]
    · rw [h, (hf a).state_eq]
  · obtain ⟨e', he', h⟩ | ⟨a, h⟩ := hrun w
    · rw [h] at he
      cases he
      exact hx.isParse_eq_false w e he'
    · rw [h] at he
      exact (hf a).isParse_eq_false w e he

end PassM

end Exposure
