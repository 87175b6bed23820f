import Workflow.Proofs.Engine.Continuation
import Workflow.Proofs.Engine.Visibility

/-!
# The outputs of steps that do not succeed

A step that has ended leaves what it publishes up to the first key that is taken
(`left_of_runStep`).  Those keys were free, so no key is written twice (`names_course_nodup`), and
what is there stays (`exists_extended_of_runSteps`).  If the id of a step is free and its alias is
taken, the entry under the id stands although the step fails or is skipped for that very reason.

`outputs_left_by_half` says for every definition, checked or not, that there is no other way in
which a step that does not succeed leaves an output behind.  `skipped_quote_stays` is a run in which
a skipped step has published its output.
-/

namespace Workflow

/-! ### Keys are written once -/

theorem Step.outputKeys_nodup (step : Step) : step.outputKeys.Nodup := by
  unfold Step.outputKeys
  split_ifs with hone
  · exact List.nodup_singleton _
  · have hne : step.id ≠ step.outputAs := fun heq => hone (by simp [heq])
    simpa using hne

theorem Step.names_published_nodup (step : Step) (outcome : Except Failure Value) :
    (Fields.names (step.published outcome)).Nodup := by
  cases outcome with
  | ok output =>
    have hnames : Fields.names (step.published (.ok output)) = step.outputKeys := by
      rw [Step.published, Fields.names, List.map_map]
      exact List.map_id _
    rw [hnames]
    exact step.outputKeys_nodup
  | error e =>
    rw [Step.published]
    split_ifs <;> simp [Fields.names]

/-- What a step leaves stands under keys that were free. -/
theorem Step.isRecorded_of_mem_left {step : Step} {c : Context} {outcome : Except Failure Value}
    {entry : String × Value} (h : entry ∈ step.left c outcome) :
    c.isRecorded entry.1 = false := by
  have hfree := List.mem_takeWhile_imp h
  rwa [Bool.not_eq_true'] at hfree

theorem Context.names_extended_left_nodup {c : Context} (step : Step)
    (outcome : Except Failure Value) (h : (Fields.names c.outputs).Nodup) :
    (Fields.names (c.extended (step.left c outcome)).outputs).Nodup := by
  have hleft : (Fields.names (step.left c outcome)).Nodup :=
    (step.names_published_nodup outcome).sublist ((List.takeWhile_sublist _).map _)
  rw [Context.extended_outputs, Fields.names, List.map_append]
  refine h.append hleft fun key hold hnew => ?_
  -- A key cannot be old and new, as new entries stand under keys that were free.
  obtain ⟨entry, hentry, rfl⟩ := List.mem_map.mp hnew
  have hfree := Step.isRecorded_of_mem_left hentry
  have htaken : c.isRecorded entry.1 = true := Fields.contains_iff.mpr hold
  rw [hfree] at htaken
  exact absurd htaken Bool.false_ne_true

/-! ### Steps of a run -/

variable {σ : Type} {attempt : Step → Context → Act σ Value} {options : Options}

/-- A step that breaks its run off leaves the context as it was. -/
theorem context_runStep_of_broken {step : Step} {p : Progress σ} {f : Failure}
    (h : (step.attempt options (attempt step p.context) p.world).outcome.worded = .broken f) :
    (runStep attempt options step p).1.context = p.context := by
  rw [runStep_of_broken rfl h]

/-- A step that has ended leaves what `Step.left` says and is reported under its id. -/
theorem left_of_runStep {step : Step} {p : Progress σ} {outcome : Except Failure Value}
    (h : (step.attempt options (attempt step p.context) p.world).outcome.worded
      = .ended outcome) :
    (runStep attempt options step p).1.context
        = p.context.extended (step.left p.context outcome) ∧
      Fields.get? (runStep attempt options step p).1.results step.id
        = some (step.verdict (step.attempt options (attempt step p.context) p.world).count
            (step.settled p.context outcome)) := by
  rw [runStep_of_settled rfl h]
  exact ⟨rfl, Fields.get?_put_self _ _ _⟩

theorem names_runStep_nodup (step : Step) {p : Progress σ}
    (h : (Fields.names p.context.outputs).Nodup) :
    (Fields.names (runStep attempt options step p).1.context.outputs).Nodup := by
  cases hout : (step.attempt options (attempt step p.context) p.world).outcome.worded with
  | broken f =>
    rw [context_runStep_of_broken hout]
    exact h
  | ended outcome =>
    rw [(left_of_runStep hout).1]
    exact Context.names_extended_left_nodup step outcome h

theorem names_runSteps_nodup (steps : List Step) {p : Progress σ}
    (h : (Fields.names p.context.outputs).Nodup) :
    (Fields.names (runSteps attempt options steps p).1.context.outputs).Nodup := by
  induction steps generalizing p with
  | nil => exact h
  | cons step steps ih =>
    have hone : (Fields.names (runStep attempt options step p).1.context.outputs).Nodup :=
      names_runStep_nodup step h
    rw [runSteps]
    rcases hrun : runStep attempt options step p with ⟨p', _ | halt⟩
    · rw [hrun] at hone
      exact ih hone
    · rw [hrun] at hone
      exact hone

/-- Steps only add to the context. -/
theorem exists_extended_of_runSteps {steps : List Step} {p q : Progress σ} {halt : Option Halt}
    (h : runSteps attempt options steps p = (q, halt)) :
    ∃ later, q.context = p.context.extended later := by
  -- No record of the outside world is kept.
  have hextends : p.Extends (fun _ => ([] : List Unit)) (runSteps attempt options steps p).1 :=
    runSteps_extends (fun _ _ _ => List.prefix_rfl) steps p
  rw [h] at hextends
  exact hextends.context

/-- Behind a step of a run the context is only added to, and its result is kept unless a later step
has the same id. -/
theorem runSteps_cons_keeps {step : Step} {steps : List Step} {p q : Progress σ}
    {halt : Option Halt} (h : runSteps attempt options (step :: steps) p = (q, halt)) :
    (∃ later, q.context = (runStep attempt options step p).1.context.extended later) ∧
      ((∀ other ∈ steps, other.id ≠ step.id) → Fields.get? q.results step.id
        = Fields.get? (runStep attempt options step p).1.results step.id) := by
  rw [runSteps] at h
  rcases hrun : runStep attempt options step p with ⟨p', _ | halt'⟩
  · rw [hrun] at h
    refine ⟨exists_extended_of_runSteps h, fun hother => ?_⟩
    -- Later steps write their results under their own ids.
    have hresults : ∃ more,
        (runSteps attempt options steps p').1.results = Fields.putAll p'.results more ∧
          ∀ entry ∈ more, ∃ other ∈ steps, entry.1 = other.id := runSteps_results steps p'
    obtain ⟨more, hmore, hids⟩ := hresults
    have hq : q.results = Fields.putAll p'.results more := by
      rw [← hmore]
      exact congrArg (fun course => course.1.results) h.symm
    rw [hq]
    apply Fields.get?_putAll_of_ne
    intro entry hentry heq
    obtain ⟨other, hmem, hid⟩ := hids entry hentry
    exact hother other hmem (hid.symm.trans heq)
  · rw [hrun] at h
    obtain ⟨rfl, -⟩ := Prod.mk.inj h
    exact ⟨⟨[], (Context.extended_nil _).symm⟩, fun _ => rfl⟩

/-! ### Runs -/

/-- The run of a definition has executed its steps `before` and come to `p`. -/
def Definition.Reaches (d : Definition) (attempt : Step → Context → Act σ Value)
    (options : Options) (now : Value) (params : RunParams) (s : σ) (before : List Step)
    (p : Progress σ) : Prop :=
  { d with steps := before }.course attempt options now params s = .ok (p, none)

/-- What a step of a run has left in the context `c` in front of it, given how its attempts have
ended and what is reported about it. -/
structure Step.Leaves (step : Step) (c : Context) (outcome : Except Failure Value) (r : StepResult)
    (left : List (String × Value)) : Prop where
  /-- A step that has succeeded has published its output under all its keys. -/
  succeeded : r.status = .succeeded →
    ∃ output, outcome = .ok output ∧ r.output = output ∧ left = step.published (.ok output)
  /-- An output that is recorded by half stays under the id, although the step has not
  succeeded. -/
  half : ∀ output, outcome = .ok output → c.HalfRecords step.toStepHeader →
    r.status ≠ .succeeded ∧ left = [(step.id, Context.outputEntry output)]
  /-- Any other step that has not succeeded has published no output. -/
  unpublished : r.status ≠ .succeeded → (∀ output, outcome = .ok output →
    ¬ c.HalfRecords step.toStepHeader) →
      left = [] ∨ r.status = .skipped ∧ left = [(step.id, .null)]

theorem Step.verdict_error_status (step : Step) (attempts : Nat) (e : Failure) :
    (step.verdict attempts (.error e)).status ≠ .succeeded := by
  rw [Step.verdict]
  split_ifs
  · show StepStatus.skipped ≠ .succeeded
    decide
  · show StepStatus.failed ≠ .succeeded
    decide

/-- A step leaves what it should, apart from outputs recorded by half. -/
theorem Step.leaves (step : Step) (c : Context) (outcome : Except Failure Value)
    (attempts : Nat) :
    step.Leaves c outcome (step.verdict attempts (step.settled c outcome))
      (step.left c outcome) := by
  cases outcome with
  | error e =>
    refine ⟨fun hstatus => absurd hstatus (step.verdict_error_status attempts e),
      fun output houtput => ?_, fun _ _ => ?_⟩
    · cases houtput
    rcases step.left_error c e with hnone | ⟨hskip, hleft⟩
    · exact Or.inl hnone
    · exact Or.inr ⟨by simp [Step.settled, Step.verdict, hskip], hleft⟩
  | ok output =>
    rcases c.keys_cases step with hfree | htaken | hhalf
    · -- All keys are free, so the alias is not taken.
      rw [Step.left_of_free _ hfree, Step.settled_of_free _ hfree]
      refine ⟨fun _ => ⟨output, rfl, rfl, rfl⟩, fun _ _ hhalf => ?_,
        fun hstatus => absurd rfl hstatus⟩
      have halias := hfree step.outputAs (by simp [hhalf.outputKeys_eq])
      rw [hhalf.2.2] at halias
      exact absurd halias Bool.false_ne_true.symm
    · rw [Step.left_of_taken _ htaken, Step.settled_of_taken output htaken]
      exact ⟨fun hstatus => absurd hstatus (step.verdict_error_status attempts _),
        fun _ _ hhalf => absurd htaken hhalf.not_isRecorded_id, fun _ _ => Or.inl rfl⟩
    · rw [Step.left_of_half output hhalf, Step.settled_of_half output hhalf]
      refine ⟨fun hstatus => absurd hstatus (step.verdict_error_status attempts _), ?_,
        fun _ hno => absurd hhalf (hno output rfl)⟩
      rintro _ ⟨rfl⟩ -
      exact ⟨step.verdict_error_status attempts _, rfl⟩

section Runs

variable {d : Definition} {now : Value} {params : RunParams} {s : σ}

/-- A run goes on with the steps behind those it has executed. -/
theorem Definition.Reaches.course_eq {before after : List Step} {p : Progress σ}
    (h : d.Reaches attempt options now params s before p) (hsteps : d.steps = before ++ after) :
    d.course attempt options now params s = .ok (runSteps attempt options after p) := by
  have hd : d = { d with steps := before }.followedBy after := by
    rw [Definition.followedBy, ← hsteps]
  rw [hd, course_followedBy, h]
  rfl

theorem names_course_nodup {q : Progress σ} {halt : Option Halt}
    (h : d.course attempt options now params s = .ok (q, halt)) :
    (Fields.names q.context.outputs).Nodup := by
  obtain ⟨c, hc, hsteps⟩ := Outcome.map_eq_ok_iff.mp h
  have hstart : (Fields.names c.outputs).Nodup := by
    rw [outputs_of_start hc]
    exact List.nodup_nil
  have hend : (Fields.names (runSteps attempt options d.steps
      { context := c, world := s }).1.context.outputs).Nodup := names_runSteps_nodup d.steps hstart
  rw [hsteps] at hend
  exact hend

end Runs

/-- **Outputs of steps that do not succeed.** A recording that fails leaves the context as it was,
unless the id of the step is free and its alias is taken.  In a run of any definition no key is
written twice and no entry is replaced, and what a step leaves is as `Step.Leaves` has it: a step
that is skipped or has failed has published its output under no key, unless the output was recorded
by half; then it stays under the id of the step.  A step that breaks the run off leaves nothing. -/
theorem outputs_left_by_half (d : Definition) (attempt : Step → Context → Act σ Value)
    (options : Options) (now : Value) (params : RunParams) (s : σ) :
    (∀ (c c' : Context) (step : Step) (output : Value) (fault : Fault),
      c.register step.toStepHeader output = (c', some fault) →
        (c' = c ↔ ¬ c.HalfRecords step.toStepHeader)) ∧
    ∀ q halt, d.course attempt options now params s = .ok (q, halt) →
      (Fields.names q.context.outputs).Nodup ∧
      ∀ before after p, d.steps = before ++ after →
        d.Reaches attempt options now params s before p →
          (∃ later, q.context = p.context.extended later) ∧
          ∀ step rest, after = step :: rest →
            (∀ f, (step.attempt options (attempt step p.context) p.world).outcome.worded
                = .broken f → q.context = p.context) ∧
            ∀ outcome, (step.attempt options (attempt step p.context) p.world).outcome.worded
                = .ended outcome →
              ∃ r left later,
                Fields.get? (runStep attempt options step p).1.results step.id = some r ∧
                (runStep attempt options step p).1.context = p.context.extended left ∧
                step.Leaves p.context outcome r left ∧
                q.context = p.context.extended (left ++ later) ∧
                ((∀ other ∈ rest, other.id ≠ step.id) → ∀ result,
                  (d.run attempt options now params s).outcome = .ok result →
                    Fields.get? result.stepResults step.id = some r) := by
  refine ⟨fun c c' step output fault hreg => Context.eq_iff_of_register hreg,
    fun q halt hcourse => ⟨names_course_nodup hcourse, fun before after p hsteps hreach =>
      ⟨?_, ?_⟩⟩⟩
  · have hends := hreach.course_eq hsteps
    rw [hcourse, Except.ok.injEq] at hends
    exact exists_extended_of_runSteps hends.symm
  · rintro step rest rfl
    have hrun := hreach.course_eq hsteps
    rw [hcourse, Except.ok.injEq] at hrun
    refine ⟨fun f hout => ?_, fun outcome hout => ?_⟩
    · rw [runSteps, runStep_of_broken rfl hout] at hrun
      rw [(Prod.mk.inj hrun).1]
    obtain ⟨hcontext, hresult⟩ := left_of_runStep hout
    obtain ⟨⟨later, hlater⟩, hkept⟩ := runSteps_cons_keeps hrun.symm
    refine ⟨_, _, later, hresult, hcontext, step.leaves p.context outcome _, ?_,
      fun hother result hres => ?_⟩
    · rw [hlater, hcontext, Context.extended_extended]
    · -- The result of the run reports what was noted, and no later step has noted anything there.
      rw [run_eq_of_course hcourse] at hres
      rw [stepResults_of_concludeRun hres, hkept hother, hresult]

/-- A step that asks for a quote. -/
def firstQuote : Step :=
  ⟨{ id := "quote", outputAs := "quote" }, .transform (some (.int 1))⟩

/-- A step with an alias that is the id of another one. -/
def secondQuote : Step :=
  ⟨{ id := "second", outputAs := "quote", onError := .skip }, .transform (some (.int 2))⟩

/-- A definition of two steps with one alias; it does not pass its check. -/
def quoteTwice : Definition :=
  { version := "1.0", steps := [firstQuote, secondQuote]
    outputMapping := [("steps", .text "$.steps")] }

/-- Handlers whose every attempt gives seven. -/
def alwaysSeven : Step → Context → Act Unit Value := fun _ _ => Act.done (.ok (.int 7))

/-- The second quote is recorded by half and stays. -/
theorem outputs_left_by_half_quoteTwice :
    ∃ q halt p, quoteTwice.course alwaysSeven {} (.int 1000) ⟨.null, .null, .null, .null, .null⟩ ()
        = .ok (q, halt) ∧
      quoteTwice.Reaches alwaysSeven {} (.int 1000) ⟨.null, .null, .null, .null, .null⟩ ()
        [firstQuote] p ∧
      p.context.HalfRecords secondQuote.toStepHeader ∧
      ∃ r later, secondQuote.Leaves p.context (.ok (.int 7)) r
          [("second", Context.outputEntry (.int 7))] ∧
        q.context
          = p.context.extended ([("second", Context.outputEntry (.int 7))] ++ later) := by
  obtain ⟨-, hruns⟩ := outputs_left_by_half quoteTwice alwaysSeven {} (.int 1000)
    ⟨.null, .null, .null, .null, .null⟩ ()
  obtain ⟨⟨q, halt⟩, hcourse⟩ : ∃ course, quoteTwice.course alwaysSeven {} (.int 1000)
      ⟨.null, .null, .null, .null, .null⟩ () = .ok course := ⟨_, rfl⟩
  obtain ⟨p, hreach, houtputs⟩ : ∃ p, quoteTwice.Reaches alwaysSeven {} (.int 1000)
      ⟨.null, .null, .null, .null, .null⟩ () [firstQuote] p ∧
      p.context.outputs = [("quote", Context.outputEntry (.int 7))] := ⟨_, rfl, rfl⟩
  have hhalf : p.context.HalfRecords secondQuote.toStepHeader := by
    rw [Context.HalfRecords, Context.isRecorded, Context.isRecorded, houtputs]
    exact ⟨by decide, by decide, by decide⟩
  obtain ⟨-, hreached⟩ := hruns q halt hcourse
  obtain ⟨-, hstep⟩ := hreached [firstQuote] [secondQuote] p rfl hreach
  obtain ⟨r, left, later, -, -, hleaves, hcontext, -⟩ :=
    (hstep secondQuote [] rfl).2 (.ok (.int 7)) rfl
  obtain ⟨-, hleft⟩ := hleaves.half (.int 7) rfl hhalf
  rw [hleft] at hleaves hcontext
  exact ⟨q, halt, p, hcourse, hreach, hhalf, r, later, hleaves, hcontext⟩

/-- A recording that fails may change the context, and a step that was skipped because of it has
published its output under its id. -/
theorem skipped_quote_stays :
    (∃ c c' : Context, c.register secondQuote.toStepHeader (.int 7)
        = (c', some (.keyTaken "quote")) ∧ c'.outputs ≠ c.outputs) ∧
    ∃ r, (quoteTwice.run alwaysSeven {} (.int 1000) ⟨.null, .null, .null, .null, .null⟩ ()).outcome
        = .ok r ∧
      r.stepResults.map (fun entry => (entry.1, entry.2.status))
        = [("quote", .succeeded), ("second", .skipped)] ∧
      r.output = [("steps", .record [("quote", Context.outputEntry (.int 7)),
        ("second", Context.outputEntry (.int 7))])] := by
  constructor
  · refine ⟨⟨⟨.null, .null, .null, .null, .null⟩, .null, 1000, .null, .null, .null,
      [("quote", Context.outputEntry (.int 7))]⟩, _, rfl, fun heq => ?_⟩
    exact absurd (congrArg List.length heq) (by decide)
  · exact ⟨_, rfl, rfl, rfl⟩

end Workflow
