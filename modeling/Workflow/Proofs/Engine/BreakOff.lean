import Workflow.Proofs.Engine.Continuation
import Workflow.Proofs.Expression.Substitution

/-!
# Runs that break off

A run that has started ends with a result, unless it breaks off.  With numbers for the retries and
the pause there are exactly three reasons for that (`run_eq_error_iff`): a step is tried so often
that its pause, a double, cannot be doubled any more (`Step.OutrunsPauses`); a step ends with a
failure that has no text (`Step.FailsWordless`); or all steps have been executed and the output
mapping comes to an index with too many digits (`Definition.MapsToLongIndex`).

The first reason rests on `attemptsFrom_broken_iff`: attempts break off behind one up to which all
of them have failed in a way that may pass, and behind which the pause cannot be reckoned
(`BreaksBehind`).
-/

namespace Workflow

variable {σ : Type} {attempt : Step → Context → Act σ Value} {options : Options}

/-! ### Pauses that cannot be reckoned -/

/-- Only a double cannot be doubled, and only from the power of two on that is no double. -/
theorem Number.doubled_eq_error_iff {x : Number} {times : Nat} {e : Failure} :
    x.doubled times = .error e ↔
      (∃ y, x = .float y) ∧ 1024 ≤ times ∧ e = .fault .integerTooLarge := by
  cases x with
  | int n => simp [doubled]
  | truth b => simp [doubled]
  | float y =>
    rw [doubled]
    split_ifs with htimes
    · constructor
      · intro h
        cases h
      · rintro ⟨-, hle, -⟩
        omega
    · constructor
      · intro h
        exact ⟨⟨y, rfl⟩, by omega, (Except.error.inj h).symm⟩
      · rintro ⟨-, -, rfl⟩
        rfl

/-- A value that is a number is doubled as the number. -/
theorem Value.doubled_eq_error_iff {v : Value} (hv : (Number.ofValue? v).isSome = true)
    {times : Nat} {e : Failure} :
    v.doubled times = .error e ↔
      (∃ y, v = .float y) ∧ 1024 ≤ times ∧ e = .fault .integerTooLarge := by
  have hnumber : ∀ x : Number, ((x.doubled times).map Number.toValue = .error e ↔
      (∃ y, x = .float y) ∧ 1024 ≤ times ∧ e = .fault .integerTooLarge) := by
    intro x
    rw [Outcome.map_eq_error_iff, Number.doubled_eq_error_iff]
  cases v with
  | int n => simpa [doubled, Number.ofValue?] using hnumber (.int n)
  | float y => simpa [doubled, Number.ofValue?] using hnumber (.float y)
  | bool b => simpa [doubled, Number.ofValue?] using hnumber (.truth b)
  | _ => cases hv

/-- Attempts, `made` of which were made before, break off behind the one at the position `last`. -/
structure BreaksBehind (act : Act σ Value) (backoff : Value) (made : Nat) (s : σ) (f : Failure)
    (last : Nat) : Prop where
  /-- Up to this one they fail in a way that may pass. -/
  failing : ∀ i ≤ last, ∃ e, Act.outcomeAt act i s = .error e ∧ e.isTransient = true
  /-- The pauses in front of it can be reckoned. -/
  reckoned : ∀ i < last, ∃ pause, backoff.doubled (made + i) = .ok pause
  /-- The pause behind it cannot. -/
  outrun : backoff.doubled (made + last) = .error f

section

variable {act : Act σ Value} {backoff : Value} {made : Nat} {s : σ} {f : Failure}

theorem breaksBehind_zero_iff :
    BreaksBehind act backoff made s f 0 ↔
      (∃ e, (act s).1 = .error e ∧ e.isTransient = true) ∧ backoff.doubled made = .error f := by
  constructor
  · exact fun h => ⟨h.failing 0 le_rfl, h.outrun⟩
  · rintro ⟨hfail, hout⟩
    refine ⟨fun i hi => ?_, nofun, hout⟩
    obtain rfl := Nat.le_zero.mp hi
    exact hfail

/-- Behind the first attempt all positions move up by one, and the attempts made before with
them. -/
theorem breaksBehind_succ_iff {last : Nat} :
    BreaksBehind act backoff made s f (last + 1) ↔
      (∃ e, (act s).1 = .error e ∧ e.isTransient = true) ∧
        (∃ pause, backoff.doubled made = .ok pause) ∧
        BreaksBehind act backoff (made + 1) (act s).2 f last := by
  have hmade : ∀ i, made + (i + 1) = made + 1 + i := fun i => by omega
  constructor
  · intro h
    refine ⟨h.failing 0 (Nat.zero_le _), h.reckoned 0 (Nat.succ_pos _), fun i hi => ?_,
      fun i hi => ?_, ?_⟩
    · exact h.failing (i + 1) (Nat.succ_le_succ hi)
    · exact hmade i ▸ h.reckoned (i + 1) (Nat.succ_lt_succ hi)
    · exact hmade last ▸ h.outrun
  · rintro ⟨hfail, hpause, h⟩
    refine ⟨fun i hi => ?_, fun i hi => ?_, ?_⟩
    · cases i with
      | zero => exact hfail
      | succ i => exact h.failing i (Nat.le_of_succ_le_succ hi)
    · cases i with
      | zero => exact hpause
      | succ i => exact hmade i ▸ h.reckoned i (Nat.lt_of_succ_lt_succ hi)
    · exact hmade last ▸ h.outrun

end

/-- Attempts break off exactly behind one that has attempts left, but a pause that cannot be
reckoned. -/
theorem attemptsFrom_broken_iff (act : Act σ Value) (backoff : Value) (left made : Nat) (s : σ)
    (f : Failure) :
    (attemptsFrom act backoff left made s).outcome = .broken f ↔
      ∃ last < left, BreaksBehind act backoff made s f last := by
  induction left generalizing made s with
  | zero =>
    rw [attemptsFrom]
    rcases act s with ⟨e | v, s'⟩ <;> simp
  | succ left ih =>
    rw [Nat.exists_lt_succ_left, breaksBehind_zero_iff]
    simp only [breaksBehind_succ_iff]
    rw [attemptsFrom]
    rcases act s with ⟨e | v, s'⟩
    · by_cases hmay : e.isTransient = true
      · cases hpause : backoff.doubled made with
        | error broken => simp [hmay]
        | ok pause => simp [hmay, ih]
      · simp [hmay]
    · simp

/-! ### Steps that break a run off -/

/-- Attempts at a step that come to an end only because a double cannot be doubled any more: 1025
attempts have failed in a way that may pass, and there would be further ones. -/
structure Step.OutrunsPauses (step : Step) (options : Options) (act : Act σ Value) (s : σ) :
    Prop where
  /-- The step is tried again. -/
  retried : step.onError = .retry
  /-- The pause is a double. -/
  double : ∃ y, options.retryBackoff = .float y
  /-- There are attempts left. -/
  attemptsLeft : ∃ limit, options.retries.count = .ok limit ∧ 1024 < limit
  /-- All attempts so far have failed in a way that may pass. -/
  failing : ∀ i ≤ 1024, ∃ e, Act.outcomeAt act i s = .error e ∧ e.isTransient = true

theorem Step.attempt_broken_iff (hnumber : (Number.ofValue? options.retries).isSome = true)
    (hbackoff : (Number.ofValue? options.retryBackoff).isSome = true) (step : Step)
    (act : Act σ Value) (s : σ) (f : Failure) :
    (step.attempt options act s).outcome = .broken f ↔
      step.OutrunsPauses options act s ∧ f = .fault .integerTooLarge := by
  have hcount : ∃ limit, options.retries.count = .ok limit := by
    obtain ⟨x, hx⟩ := Option.isSome_iff_exists.mp hnumber
    exact ⟨x.count, by rw [Value.count, hx]⟩
  obtain ⟨limit, hlimit⟩ := hcount
  have hretries : step.retries options = .ok (if step.onError = .retry then limit else 0) := by
    rw [StepHeader.retries, hlimit]
    split_ifs <;> rfl
  rw [Step.attempt, hretries]
  simp only [attemptsFrom_broken_iff]
  constructor
  · rintro ⟨last, hlast, hfail, hok, hout⟩
    rw [Nat.zero_add] at hout
    obtain ⟨hdouble, hle, rfl⟩ := (Value.doubled_eq_error_iff hbackoff).mp hout
    have hretried : step.onError = .retry := by
      by_contra hne
      rw [if_neg hne] at hlast
      omega
    rw [if_pos hretried] at hlast
    -- The pause behind the attempt with the number 1024 is the first one that is out of reach.
    have hlast' : last = 1024 := by
      by_contra hne
      obtain ⟨pause, hpause⟩ := hok 1024 (by omega)
      rw [Nat.zero_add] at hpause
      have herror : options.retryBackoff.doubled 1024 = .error (.fault .integerTooLarge) :=
        (Value.doubled_eq_error_iff hbackoff).mpr ⟨hdouble, le_rfl, rfl⟩
      rw [hpause] at herror
      cases herror
    rw [hlast'] at hlast hfail
    exact ⟨⟨hretried, hdouble, ⟨limit, hlimit, hlast⟩, hfail⟩, rfl⟩
  · rintro ⟨hout, rfl⟩
    obtain ⟨limit', hlimit', hlt⟩ := hout.attemptsLeft
    obtain rfl := Except.ok.inj (hlimit.symm.trans hlimit')
    refine ⟨1024, by rwa [if_pos hout.retried], hout.failing, fun i hi => ?_,
      (Value.doubled_eq_error_iff hbackoff).mpr ⟨hout.double, le_rfl, rfl⟩⟩
    cases hpause : options.retryBackoff.doubled (0 + i) with
    | ok pause => exact ⟨pause, rfl⟩
    | error e =>
      obtain ⟨-, hle, -⟩ := (Value.doubled_eq_error_iff hbackoff).mp hpause
      omega

/-- A step outruns its pauses, and all steps in front of it have been executed. -/
def Definition.OutrunsPauses (d : Definition) (attempt : Step → Context → Act σ Value)
    (options : Options) (c : Context) (s : σ) : Prop :=
  ∃ before step after q, d.steps = before ++ step :: after ∧
    runSteps attempt options before { context := c, world := s } = (q, none) ∧
    step.OutrunsPauses options (attempt step q.context) q.world

end Workflow
