import Workflow.Proofs.Context.Recording
import Workflow.Proofs.Engine.Attempts

/-!
# The steps of a run in order

A run that is not halted by a step goes on with the next one, so what every step keeps is kept by
the steps together; a run that is halted was kept going up to the step that halts it
(`runSteps_invariant`).

A step that ends leaves an entry, a span and a context.  Whether it succeeds, is skipped or fails,
the span shows what the entry says (`Progress.note`), so that one equation tells what comes of a
step that has ended (`Progress.settle_eq`).  So a single step either breaks the run off
(`runStep_of_broken`) or settles and lets the run go on as `Step.haltAfter` says
(`runStep_of_settled`), which is a matter of `StepOutcome.worded`.
-/

namespace Workflow

variable {σ : Type} {attempt : Step → Context → Act σ Value} {options : Options}

/-! ### Steps together -/

theorem runSteps_append (front back : List Step) (p : Progress σ) :
    runSteps attempt options (front ++ back) p
      = match runSteps attempt options front p with
        | (q, none) => runSteps attempt options back q
        | (q, some halt) => (q, some halt) := by
  induction front generalizing p with
  | nil => rfl
  | cons step front ih =>
    rw [List.cons_append, runSteps, runSteps]
    rcases runStep attempt options step p with ⟨q, _ | halt⟩
    · exact ih q
    · rfl

/-- What holds at the start and is kept by every step that does not halt the run holds in front of
every step that is executed, and behind the last one. -/
theorem runSteps_invariant {Inv : List Step → Progress σ → Prop} {steps : List Step}
    {p₀ p : Progress σ} {h : Option Halt} (hinit : Inv [] p₀)
    (hstep : ∀ before step after q q', steps = before ++ step :: after → Inv before q →
      runStep attempt options step q = (q', none) → Inv (before ++ [step]) q')
    (hrun : runSteps attempt options steps p₀ = (p, h)) :
    (h = none ∧ Inv steps p) ∨
      ∃ before step after q halt, steps = before ++ step :: after ∧ Inv before q ∧
        runStep attempt options step q = (p, some halt) ∧ h = some halt := by
  suffices hfrom : ∀ after before q, steps = before ++ after → Inv before q →
      runSteps attempt options after q = (p, h) →
      (h = none ∧ Inv steps p) ∨
        ∃ before step after q halt, steps = before ++ step :: after ∧ Inv before q ∧
          runStep attempt options step q = (p, some halt) ∧ h = some halt from
    hfrom steps [] p₀ rfl hinit hrun
  intro after
  -- The steps done so far move from `after` to the end of `before`.
  induction after with
  | nil =>
    intro before q hsteps hinv hrest
    obtain ⟨rfl, rfl⟩ := Prod.mk.inj hrest
    rw [List.append_nil] at hsteps
    exact Or.inl ⟨rfl, hsteps ▸ hinv⟩
  | cons step after ih =>
    intro before q hsteps hinv hrest
    rw [runSteps] at hrest
    rcases hq : runStep attempt options step q with ⟨q', _ | halt⟩
    · rw [hq] at hrest
      refine ih (before ++ [step]) q' ?_ (hstep before step after q q' hsteps hinv hq) hrest
      rw [hsteps, List.append_assoc, List.singleton_append]
    · rw [hq] at hrest
      obtain ⟨rfl, rfl⟩ := Prod.mk.inj hrest
      exact Or.inr ⟨before, step, after, q, halt, hsteps, hinv, hq, rfl⟩

/-! ### Entries and spans -/

/-- The span of a step that has ended with an outcome. -/
def Step.endedSpan (step : Step) (r : StepResult) : Span :=
  (step.span.setAttribute (.text "attempts") (.int r.attempts)).finish (.text r.status.name)
    (optionalText r.error)

/-- Notes how a step has ended: an entry, a span that shows it, and the context behind the step. -/
def Progress.note (p : Progress σ) (step : Step) (r : StepResult) (c : Context) : Progress σ :=
  { p with
    context := c
    results := Fields.put p.results step.id r
    spans := p.spans ++ [step.endedSpan r] }

/-- Why a step that has ended halts its run, if it does. -/
def Step.haltAfter (step : Step) : Except Failure Value → Option Halt
  | .ok _ => none
  | .error e => if step.onError = .skip then none else some (.failed step.label e.message)

namespace Progress

variable (p : Progress σ) (step : Step) (attempts : Nat)

/-- The span of a step that succeeds shows what its entry says. -/
theorem succeed_eq (output : Value) :
    p.succeed step (step.span.setAttribute (.text "attempts") (.int attempts)) output attempts
      = p.note step (step.verdict attempts (.ok output)) p.context := rfl

/-- So does the span of a step that is skipped. -/
theorem skip_eq (hskip : step.onError = .skip) (e : Failure) :
    p.skip step (step.span.setAttribute (.text "attempts") (.int attempts)) e.message attempts
      = p.note step (step.verdict attempts (.error e))
          (p.context.registerSkipped step.toStepHeader) := by
  rw [Step.verdict, if_pos hskip]
  rfl

/-- So does the span of a step that fails. -/
theorem fail_eq (hskip : step.onError ≠ .skip) (e : Failure) :
    p.fail step (step.span.setAttribute (.text "attempts") (.int attempts)) e.message attempts
      = p.note step (step.verdict attempts (.error e)) p.context := by
  rw [Step.verdict, if_neg hskip]
  rfl

/-- A failure with a text is noted, and halts the run unless the step may be skipped. -/
theorem giveUp_eq {e : Failure} (he : e.isWritable = true) :
    p.giveUp step (step.span.setAttribute (.text "attempts") (.int attempts)) e attempts
      = (p.note step (step.verdict attempts (.error e))
          (if step.onError = .skip then p.context.registerSkipped step.toStepHeader
            else p.context), step.haltAfter (.error e)) := by
  rw [giveUp, Failure.text_eq_ok_iff.mpr ⟨he, rfl⟩, Step.haltAfter]
  dsimp only
  by_cases hskip : step.onError = .skip
  · rw [if_pos hskip, if_pos hskip, if_pos hskip, skip_eq p step attempts hskip]
  · rw [if_neg hskip, if_neg hskip, if_neg hskip, fail_eq p step attempts hskip]

/-- A step whose output is refused fails, and by then something is recorded under its id, so the
mark of a skipped step is not written. -/
theorem settle_of_refused {c : Context} {output : Value} {key : String}
    (hreg : p.context.register step.toStepHeader output = (c, some (.keyTaken key)))
    (hid : c.isRecorded step.id = true) :
    p.settle step (.ok output) attempts
      = (p.note step (step.verdict attempts (.error (.misconfigured (.keyTaken key)))) c,
        step.haltAfter (.error (.misconfigured (.keyTaken key)))) := by
  have hsettle : p.settle step (.ok output) attempts
      = ({ p with context := c } : Progress σ).giveUp step
          (step.span.setAttribute (.text "attempts") (.int attempts))
          (.misconfigured (.keyTaken key)) attempts := by
    simp only [settle, hreg, registrationFailure]
  rw [hsettle, giveUp_eq _ _ _ rfl]
  simp only [Context.registerSkipped_of_taken hid, ite_self]
  rfl

/-- Whatever is recorded before it, a step that has ended appends what it publishes up to the first
key that is taken, and reports how it ended. -/
theorem settle_eq {outcome : Except Failure Value}
    (hworded : ∀ e, outcome = .error e → e.isWritable = true) :
    p.settle step outcome attempts
      = (p.note step (step.verdict attempts (step.settled p.context outcome))
          (p.context.extended (step.left p.context outcome)),
        step.haltAfter (step.settled p.context outcome)) := by
  cases outcome with
  | error e =>
    have hcontext : (if step.onError = .skip then p.context.registerSkipped step.toStepHeader
        else p.context) = p.context.extended (step.left p.context (.error e)) := by
      rw [Step.left, Step.published]
      split_ifs with hskip
      · cases hid : p.context.isRecorded step.id with
        | true => simp [Context.registerSkipped_of_taken hid, hid]
        | false => simp [Context.registerSkipped_of_free step hid, hid]
      · exact (Context.extended_nil _).symm
    rw [← hcontext]
    exact giveUp_eq p step attempts (hworded e rfl)
  | ok output =>
    rcases p.context.keys_cases step with hfree | htaken | hhalf
    · rw [Step.settled_of_free _ hfree, Step.left_of_free _ hfree, settle,
        Context.register_of_free step output hfree]
      exact Prod.ext (succeed_eq _ step attempts output) rfl
    · rw [Step.settled_of_taken output htaken, Step.left_of_taken _ htaken, Context.extended_nil]
      exact settle_of_refused p step attempts (Context.register_of_taken output htaken) htaken
    · -- What was written by half is what the engine finds when it marks the step as skipped.
      have hid : (p.context.extended [(step.id, Context.outputEntry output)]).isRecorded step.id
          = true := by
        simp [Context.isRecorded, Fields.contains]
      rw [Step.settled_of_half output hhalf, Step.left_of_half output hhalf]
      exact settle_of_refused p step attempts (hhalf.register_eq output) hid

end Progress

/-! ### A single step -/

/-- The span of a step that breaks its run off.  It has not ended, but shows the number of attempts
if they have. -/
def Step.openSpan (step : Step) (a : Attempts σ) : Span :=
  match a.outcome with
  | .broken .. => step.span
  | .ended .. => step.span.setAttribute (.text "attempts") (.int a.count)

theorem runStep_of_broken {step : Step} {p : Progress σ} {a : Attempts σ} {f : Failure}
    (ha : step.attempt options (attempt step p.context) p.world = a)
    (h : a.outcome.worded = .broken f) :
    runStep attempt options step p
      = ({ p with pauses := p.pauses ++ a.pauses, world := a.world,
                  spans := p.spans ++ [step.openSpan a] }, some (.broken f)) := by
  rcases StepOutcome.worded_eq_broken_iff.mp h with hbroken | ⟨e, hended, hwordless, rfl⟩
  · rw [runStep, ha, Step.openSpan, hbroken]
    rfl
  · rw [runStep, ha, Step.openSpan, hended]
    simp only [Progress.settle, Progress.giveUp,
      Failure.text_eq_error_iff.mpr ⟨hwordless, rfl⟩, Progress.addSpan]

theorem runStep_of_settled {step : Step} {p : Progress σ} {a : Attempts σ}
    {outcome : Except Failure Value}
    (ha : step.attempt options (attempt step p.context) p.world = a)
    (h : a.outcome.worded = .ended outcome) :
    runStep attempt options step p
      = (({ p with pauses := p.pauses ++ a.pauses, world := a.world } : Progress σ).note step
          (step.verdict a.count (step.settled p.context outcome))
          (p.context.extended (step.left p.context outcome)),
        step.haltAfter (step.settled p.context outcome)) := by
  obtain ⟨hended, hworded⟩ := StepOutcome.worded_eq_ended_iff.mp h
  rw [runStep, ha, hended]
  exact Progress.settle_eq _ step a.count hworded

theorem runStep_of_ended {step : Step} {p : Progress σ} {a : Attempts σ}
    {outcome : Except Failure Value}
    (ha : step.attempt options (attempt step p.context) p.world = a)
    (h : a.outcome.worded = .ended outcome)
    (hfree : ∀ key ∈ step.outputKeys, p.context.isRecorded key = false) :
    runStep attempt options step p
      = (({ p with pauses := p.pauses ++ a.pauses, world := a.world } : Progress σ).note step
          (step.verdict a.count outcome) (p.context.extended (step.published outcome)),
        step.haltAfter outcome) := by
  rw [runStep_of_settled ha h, Step.settled_of_free outcome hfree, Step.left_of_free outcome hfree]

/-- Whatever becomes of a step, its attempts are all that touches the outside world. -/
theorem runStep_world (step : Step) (p : Progress σ) :
    (runStep attempt options step p).1.world
      = (step.attempt options (attempt step p.context) p.world).world := by
  cases h : (step.attempt options (attempt step p.context) p.world).outcome.worded with
  | broken f => rw [runStep_of_broken rfl h]
  | ended outcome => rw [runStep_of_settled rfl h, Progress.note]

end Workflow
