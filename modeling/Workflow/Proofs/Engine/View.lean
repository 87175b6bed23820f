import Workflow.Proofs.Engine.Progression
import Workflow.Proofs.Service.Acts

/-!
# Runs under a view of the outside world

Handlers may act on a larger world, one that also keeps a record of what happens in it.  If each of
their attempts is, under a view of that world, an attempt of the handlers without the record
(`Act.Refines`), then whole runs agree under the view (`run_under`): the record changes nothing.
-/

namespace Workflow

variable {σ τ α : Type}

/-! ### Attempts -/

/-- Attempts with a view of their world. -/
def Attempts.under (view : τ → σ) (a : Attempts τ) : Attempts σ :=
  ⟨a.outcome, a.count, a.pauses, view a.world⟩

theorem attemptsFrom_under {view : τ → σ} {fine : Act τ Value} {coarse : Act σ Value}
    (h : Act.Refines view fine coarse) (backoff : Value) (left made : Nat) (t : τ) :
    attemptsFrom coarse backoff left made (view t)
      = (attemptsFrom fine backoff left made t).under view := by
  induction left generalizing made t with
  | zero =>
    rw [attemptsFrom, attemptsFrom, h t]
    rcases fine t with ⟨e | output, t'⟩
    · simp only [ite_self]
      rfl
    · rfl
  | succ left ih =>
    rw [attemptsFrom, attemptsFrom, h t]
    rcases fine t with ⟨e | output, t'⟩
    · simp only
      split
      · cases backoff.doubled made with
        | error broken => rfl
        | ok pause =>
          simp only [ih]
          rfl
      · rfl
    · rfl

theorem Step.attempt_under {view : τ → σ} {fine : Act τ Value} {coarse : Act σ Value}
    (h : Act.Refines view fine coarse) (step : Step) (options : Options) (t : τ) :
    step.attempt options coarse (view t) = (step.attempt options fine t).under view := by
  unfold Step.attempt
  cases step.retries options with
  | ok limit => exact attemptsFrom_under h options.retryBackoff limit 0 t
  | error broken =>
    simp only [onlyAttempt, h t]
    rcases fine t with ⟨e | output, t'⟩ <;> rfl

/-! ### Steps and runs -/

/-- The state of a run with a view of its world. -/
def Progress.under (view : τ → σ) (p : Progress τ) : Progress σ :=
  ⟨p.context, p.results, p.pauses, p.spans, view p.world⟩

/-- What a run does with a view of its world. -/
def Execution.under (view : τ → σ) (x : Execution τ) : Execution σ :=
  ⟨x.outcome, x.pauses, x.spans, view x.world⟩

variable {view : τ → σ} {fine : Step → Context → Act τ Value}
  {coarse : Step → Context → Act σ Value}

theorem runStep_under (h : ∀ step c, Act.Refines view (fine step c) (coarse step c))
    (options : Options) (step : Step) (p : Progress τ) :
    runStep coarse options step (p.under view)
      = ((runStep fine options step p).1.under view, (runStep fine options step p).2) := by
  -- Everything but the world is the same on both sides, the context that the attempts see included.
  have hattempt : step.attempt options (coarse step (p.under view).context) (p.under view).world
      = (step.attempt options (fine step p.context) p.world).under view :=
    Step.attempt_under (h step p.context) step options p.world
  cases hout : (step.attempt options (fine step p.context) p.world).outcome.worded with
  | broken f =>
    rw [runStep_of_broken rfl hout, runStep_of_broken hattempt hout]
    rfl
  | ended outcome =>
    rw [runStep_of_settled rfl hout, runStep_of_settled hattempt hout]
    rfl

theorem runSteps_under (h : ∀ step c, Act.Refines view (fine step c) (coarse step c))
    (options : Options) (steps : List Step) (p : Progress τ) :
    runSteps coarse options steps (p.under view)
      = ((runSteps fine options steps p).1.under view, (runSteps fine options steps p).2) := by
  induction steps generalizing p with
  | nil => rfl
  | cons step steps ih =>
    rw [runSteps, runSteps, runStep_under h]
    rcases runStep fine options step p with ⟨p', _ | halt⟩
    · exact ih p'
    · rfl

/-- A record kept beside the world changes nothing of a run. -/
theorem run_under (h : ∀ step c, Act.Refines view (fine step c) (coarse step c))
    (d : Definition) (options : Options) (now : Value) (params : RunParams) (t : τ) :
    d.run coarse options now params (view t)
      = (d.run fine options now params t).under view := by
  unfold Definition.run
  cases Context.start params options now with
  | error e => rfl
  | ok c =>
    have hsteps := runSteps_under h options d.steps { context := c, world := t }
    simp only [Progress.under] at hsteps
    simp only [hsteps]
    rfl

end Workflow
