import Workflow.Proofs.Engine.Attempts
import Workflow.Proofs.Engine.Progression
import Workflow.Proofs.Engine.View
import Workflow.Proofs.Step.Perform

/-!
# The submissions of a run

`Services.noting` turns outside services into services that also note each submission: the step it
is made for, the transaction, and how it ended.  The notes of a whole run are
`Definition.submissions`, and those of the attempts at one step are `Step.submissions`.

Taking notes changes nothing else (`submitting_refines`), and what is noted does not depend on what
was noted before (`submitting_append`).  The notes of a run are therefore those of its steps, one
step behind the other: `submissions_split` cuts out of them what a single step has submitted.
-/

namespace Workflow

variable {σ : Type}

/-! ### Noting submissions -/

/-- A call of the service that submits transactions. -/
structure Submission where
  /-- The step for which it was made. -/
  step : Step
  /-- The transaction. -/
  request : TransactionRequest
  /-- How the call ended; what it returns should be a receipt. -/
  outcome : Except Failure Value

/-- Services that note submissions behind those noted before. -/
def Services.noting (services : Services σ) (step : Step) : Services (σ × List Submission) where
  findProxy id := (services.findProxy id).beside
  revealHeaders stored := (services.revealHeaders stored).beside
  send request := (services.send request).beside
  submit request := (services.submit request).noted fun outcome => ⟨step, request, outcome⟩

/-- The handlers of a run whose submissions are noted. -/
def submitting (services : Services σ) (channel : Http.Channel) (step : Step) (c : Context) :
    Act (σ × List Submission) Value := step.perform (services.noting step) channel c

/-- The submissions of a run, in order. -/
def Definition.submissions (d : Definition) (services : Services σ) (channel : Http.Channel)
    (options : Options) (now : Value) (params : RunParams) (s : σ) : List Submission :=
  (d.run (submitting services channel) options now params (s, [])).world.2

/-- The submissions that are made while a step is attempted, in order. -/
def Step.submissions (step : Step) (services : Services σ) (channel : Http.Channel)
    (options : Options) (c : Context) (s : σ) : List Submission :=
  (step.attempt options (submitting services channel step c) (s, [])).world.2

/-! ### Notes change nothing -/

/-- A world with further notes in front of those that it has. -/
def notedAfter (log : List Submission) (t : σ × List Submission) : σ × List Submission :=
  (t.1, log ++ t.2)

theorem noting_services_refines (services : Services σ) (step : Step) :
    Services.Refines Prod.fst (services.noting step) services :=
  ⟨fun _ _ => rfl, fun _ _ => rfl, fun _ _ => rfl, fun _ _ => rfl⟩

theorem noting_services_append (services : Services σ) (step : Step) (log : List Submission) :
    Services.Refines (notedAfter log) (services.noting step) (services.noting step) := by
  refine ⟨fun _ _ => rfl, fun _ _ => rfl, fun _ _ => rfl, fun request t => ?_⟩
  simp only [Services.noting, Act.noted, notedAfter, List.append_assoc]

theorem submitting_refines (services : Services σ) (channel : Http.Channel) (step : Step)
    (c : Context) :
    Act.Refines Prod.fst (submitting services channel step c) (step.perform services channel c) :=
  perform_refines (noting_services_refines services step) channel step c

theorem submitting_append (services : Services σ) (channel : Http.Channel)
    (log : List Submission) (step : Step) (c : Context) :
    Act.Refines (notedAfter log) (submitting services channel step c)
      (submitting services channel step c) :=
  perform_refines (noting_services_append services step log) channel step c

/-! ### The submissions of one step -/

/-- Attempts at a step end alike whether their submissions are noted or not. -/
theorem attempt_submitting (step : Step) (services : Services σ) (channel : Http.Channel)
    (options : Options) (c : Context) (s : σ) (log : List Submission) :
    step.attempt options (step.perform services channel c) s
      = (step.attempt options (submitting services channel step c) (s, log)).under Prod.fst :=
  Step.attempt_under (submitting_refines services channel step c) step options (s, log)

/-- What holds of every submission for a step holds of those made while it is attempted. -/
theorem of_mem_submissions {step : Step} {services : Services σ} {channel : Http.Channel}
    {options : Options} {c : Context} {s : σ} {v : Submission} {P : Submission → Prop}
    (hP : ∀ request t, P ⟨step, request, (services.submit request t).1⟩)
    (hv : v ∈ step.submissions services channel options c s) : P v := by
  obtain ⟨last, h⟩ := step.attempt_attempted options (submitting services channel step c) (s, [])
  rw [Step.submissions, h.world_eq] at hv
  have hservices : (services.noting step).Keeps fun t => ∀ v ∈ t.2, P v := by
    refine ⟨⟨⟨fun _ _ ht => ht, fun _ _ ht => ht⟩, fun _ _ ht => ht⟩, fun request t ht v hv => ?_⟩
    rcases List.mem_append.mp hv with hv | hv
    · exact ht v hv
    · rw [List.mem_singleton.mp hv]
      exact hP request t.1
  have hkept := perform_keeps hservices channel step c
  exact Act.worldAfter_invariant hkept (last + 1) (by simp) v hv

/-- The submissions made while a step is attempted are made for this step. -/
theorem step_of_mem_submissions {step : Step} {services : Services σ} {channel : Http.Channel}
    {options : Options} {c : Context} {s : σ} {v : Submission}
    (hv : v ∈ step.submissions services channel options c s) : v.step = step :=
  of_mem_submissions (P := fun v => v.step = step) (fun _ _ => rfl) hv

/-- A step in a run adds its submissions to those before it. -/
theorem runStep_submissions (step : Step) (services : Services σ) (channel : Http.Channel)
    (options : Options) (p : Progress (σ × List Submission)) :
    (runStep (submitting services channel) options step p).1.world.2
      = p.world.2 ++ step.submissions services channel options p.context p.world.1 := by
  -- The world in front of the step is one without notes, seen with the notes so far before it.
  have hview := Step.attempt_under (submitting_append services channel p.world.2 step p.context)
    step options (p.world.1, [])
  have hworld : notedAfter p.world.2 (p.world.1, []) = p.world := by
    simp [notedAfter]
  rw [hworld] at hview
  rw [runStep_world, hview]
  rfl

/-! ### The submissions of a run -/

/-- Steps in a run add submissions of their own to those before them. -/
theorem runSteps_submissions (services : Services σ) (channel : Http.Channel)
    (options : Options) (steps : List Step) (p : Progress (σ × List Submission)) :
    ∃ more, (runSteps (submitting services channel) options steps p).1.world.2
        = p.world.2 ++ more ∧ ∀ v ∈ more, v.step ∈ steps := by
  induction steps generalizing p with
  | nil => exact ⟨[], by simp [runSteps], by simp⟩
  | cons step steps ih =>
    have hone := runStep_submissions step services channel options p
    rw [runSteps]
    rcases hrun : runStep (submitting services channel) options step p with ⟨p', _ | halt⟩
    · obtain ⟨more, hmore, hsteps⟩ := ih p'
      rw [hrun] at hone
      refine ⟨step.submissions services channel options p.context p.world.1 ++ more, ?_, ?_⟩
      · rw [← List.append_assoc, ← hone]
        exact hmore
      · intro v hv
        rcases List.mem_append.mp hv with hv | hv
        · rw [step_of_mem_submissions hv]
          exact List.mem_cons_self ..
        · exact List.mem_cons_of_mem _ (hsteps v hv)
    · rw [hrun] at hone
      refine ⟨_, hone, fun v hv => ?_⟩
      rw [step_of_mem_submissions hv]
      exact List.mem_cons_self ..

/-- The submissions of a run are those of the steps in front of a given one, those of the given one,
which is executed at most once, and those of the steps behind it. -/
theorem submissions_split (d : Definition) (services : Services σ) (channel : Http.Channel)
    (options : Options) (now : Value) (params : RunParams) (s : σ) {before after : List Step}
    {step : Step} (hsteps : d.steps = before ++ step :: after) :
    ∃ earlier made later,
      d.submissions services channel options now params s = earlier ++ made ++ later ∧
      (∀ v ∈ earlier, v.step ∈ before) ∧ (∀ v ∈ later, v.step ∈ after) ∧
      (made = [] ∨ ∃ c s', made = step.submissions services channel options c s') := by
  unfold Definition.submissions Definition.run
  cases Context.start params options now with
  | error e => exact ⟨[], [], [], rfl, by simp, by simp, Or.inl rfl⟩
  | ok c =>
    simp only [hsteps, runSteps_append]
    obtain ⟨earlier, hearlier, hbefore⟩ := runSteps_submissions services channel options before
      { context := c, world := (s, []) }
    -- The run is halted in front of the step, at the step, or nowhere up to and at it.
    rcases hq : runSteps (submitting services channel) options before
      { context := c, world := (s, []) } with ⟨q, _ | halt⟩
    · rw [hq, List.nil_append] at hearlier
      have hone := runStep_submissions step services channel options q
      simp only [runSteps]
      rcases hrun : runStep (submitting services channel) options step q with ⟨q', _ | halt⟩
      · obtain ⟨later, hlater, hafter⟩ :=
          runSteps_submissions services channel options after q'
        rw [hrun] at hone
        refine ⟨earlier, _, later, ?_, hbefore, hafter, Or.inr ⟨q.context, q.world.1, rfl⟩⟩
        rw [← hearlier, ← hone]
        exact hlater
      · rw [hrun] at hone
        refine ⟨earlier, _, [], ?_, hbefore, by simp, Or.inr ⟨q.context, q.world.1, rfl⟩⟩
        rw [List.append_nil, ← hearlier]
        exact hone
    · rw [hq, List.nil_append] at hearlier
      refine ⟨earlier, [], [], ?_, hbefore, by simp, Or.inl rfl⟩
      rw [List.append_nil, List.append_nil]
      exact hearlier

end Workflow
