import Workflow.Proofs.Engine.Entries

/-!
# The trace of a run

Whichever way a step ends, its span shows what its entry says (`runStep_noted`,
`Step.endedSpan_traces`).  So the spans of a run follow its entries, step
by step (`Traced.next`), and a run with a result leaves one span for each step that was executed and
no span that has not ended (`trace_agrees`).
-/

namespace Workflow

variable {σ : Type} {attempt : Step → Context → Act σ Value} {options : Options}

/-! ### The span of a step -/

/-- What a span must show of a step with the given outcome. -/
structure Span.Traces (span : Span) (step : Step) (r : StepResult) : Prop where
  /-- It is named by the label of the step. -/
  name : span.name = .text step.label
  /-- It holds the id and the kind of the step and the number of attempts, and nothing else. -/
  attributes : span.attributes = Rows.ofFields [("step.id", .text step.id),
    ("step.type", .text step.action.kind), ("attempts", .int r.attempts)]
  /-- It has ended. -/
  ended : span.ended = true
  /-- Its status is that of the outcome. -/
  status : span.status = .text r.status.name
  /-- So is its error, if there is one. -/
  error : span.error = optionalText r.error

theorem Step.endedSpan_traces (step : Step) (r : StepResult) :
    (step.endedSpan r).Traces step r where
  name := rfl
  attributes := rfl
  ended := rfl
  status := rfl
  error := rfl

/-! ### Spans and entries -/

/-- The spans of some steps, as the entries under their ids show them. -/
structure Traced (executed : List Step) (results : List (String × StepResult))
    (spans : List Span) : Prop where
  /-- There is one entry for each step. -/
  names_eq : Fields.names results = executed.map (·.id)
  /-- There is one span for each step, which shows what its entry says. -/
  traces : List.Forall₂ (fun step span => ∃ r, Fields.get? results step.id = some r
    ∧ span.Traces step r) executed spans

theorem traced_nil : Traced [] [] [] := ⟨rfl, .nil⟩

/-- An entry under a new id changes nothing of what the others say. -/
theorem Traced.next {before : List Step} {step : Step} {results : List (String × StepResult)}
    {spans : List Span} (h : Traced before results spans)
    (hnew : ∀ earlier ∈ before, step.id ≠ earlier.id) (r : StepResult) :
    Traced (before ++ [step]) (Fields.put results step.id r) (spans ++ [step.endedSpan r]) := by
  have hfree : step.id ∉ Fields.names results := by
    rw [h.names_eq]
    intro hmem
    obtain ⟨earlier, hearlier, hid⟩ := List.mem_map.mp hmem
    exact hnew earlier hearlier hid.symm
  constructor
  case names_eq =>
    rw [Fields.put_of_not_mem hfree, Fields.names, List.map_append, List.map_append, ← h.names_eq]
    rfl
  case traces =>
    refine List.rel_append ?_ (.cons ⟨r, Fields.get?_put_self _ _ _, step.endedSpan_traces r⟩ .nil)
    refine ((List.forall₂_and_left _ _).mpr ⟨hnew, h.traces⟩).imp ?_
    rintro earlier span ⟨hne, r', hr', htraces⟩
    exact ⟨r', (Fields.get?_put_of_ne _ hne.symm _).trans hr', htraces⟩

/-! ### Runs -/

/-- A step that does not break the run off leaves an entry and the span of that entry. -/
theorem runStep_noted {step : Step} {q q' : Progress σ} {halt : Option Halt}
    (hrun : runStep attempt options step q = (q', halt))
    (hwhole : ∀ e, halt ≠ some (.broken e)) :
    ∃ r, q'.results = Fields.put q.results step.id r
      ∧ q'.spans = q.spans ++ [step.endedSpan r] := by
  cases hout : (step.attempt options (attempt step q.context) q.world).outcome.worded with
  | broken f =>
    rw [runStep_of_broken rfl hout] at hrun
    exact absurd (Prod.mk.inj hrun).2.symm (hwhole f)
  | ended outcome =>
    rw [runStep_of_settled rfl hout] at hrun
    obtain ⟨rfl, -⟩ := Prod.mk.inj hrun
    exact ⟨_, rfl, rfl⟩

/-- The spans of a run that is not broken off follow its entries. -/
theorem exists_traced_of_runSteps {steps : List Step} (hkeyed : Step.Keyed steps)
    {q p : Progress σ} {halt : Option Halt} (hq : Traced [] q.results q.spans)
    (hrun : runSteps attempt options steps q = (p, halt))
    (hwhole : ∀ e, halt ≠ some (.broken e)) :
    ∃ executed, executed <+: steps ∧ Traced executed p.results p.spans := by
  have hnext : ∀ before step after q q' halt, steps = before ++ step :: after →
      Traced before q.results q.spans →
      runStep attempt options step q = (q', halt) → (∀ e, halt ≠ some (.broken e)) →
      Traced (before ++ [step]) q'.results q'.spans := by
    intro before step after q q' halt hsteps htraced hone hgo
    obtain ⟨r, hresults, hspans⟩ := runStep_noted hone hgo
    rw [hresults, hspans]
    rw [hsteps] at hkeyed
    exact htraced.next (id_ne_of_keyed hkeyed) r
  have hstep : ∀ before step after q q', steps = before ++ step :: after →
      Traced before q.results q.spans → runStep attempt options step q = (q', none) →
      Traced (before ++ [step]) q'.results q'.spans :=
    fun before step after q q' hsteps htraced hone =>
      hnext before step after q q' none hsteps htraced hone fun _ => nofun
  rcases runSteps_invariant hq hstep hrun with
    ⟨-, htraced⟩ | ⟨before, step, after, q', halt, hsteps, htraced, hone, rfl⟩
  · exact ⟨steps, List.prefix_refl steps, htraced⟩
  · -- The step that halts the run has ended, too.
    refine ⟨before ++ [step], ⟨after, ?_⟩, hnext _ _ _ _ _ _ hsteps htraced hone hwhole⟩
    rw [hsteps, List.append_assoc, List.singleton_append]

theorem exists_traced_of_result {d : Definition} (hkeyed : Step.Keyed d.steps) {now : Value}
    {params : RunParams} {s : σ} {r : Result}
    (hr : (d.run attempt options now params s).outcome = .ok r) :
    ∃ executed, executed <+: d.steps
      ∧ Traced executed r.stepResults (d.run attempt options now params s).spans := by
  rw [Definition.run] at hr ⊢
  cases hc : Context.start params options now with
  | error e =>
    rw [hc] at hr
    cases hr
  | ok c =>
    rw [hc] at hr
    rcases hrun : runSteps attempt options d.steps { context := c, world := s } with ⟨p, halt⟩
    simp only [hrun] at hr ⊢
    rw [stepResults_of_concludeRun hr]
    refine exists_traced_of_runSteps hkeyed traced_nil hrun ?_
    -- A run that breaks off has no result.
    rintro e rfl
    cases hr

/-- **Trace and result agree.**  A run of a definition that passes its check and has a result leaves
one span for each step that was executed, in order.  Each of them has ended and shows the step with
the status, the error and the number of attempts of its entry in the result. -/
theorem trace_agrees {d : Definition} {version : Value}
    (hvalid : (d.check version).valid = true) {attempt : Step → Context → Act σ Value}
    {options : Options} {now : Value} {params : RunParams} {s : σ} {r : Result}
    (hr : (d.run attempt options now params s).outcome = .ok r) :
    ∃ executed, executed <+: d.steps
      ∧ (∀ step, (∃ v ∈ d.visits attempt options now params s, v.step = step) ↔ step ∈ executed)
      ∧ Fields.names r.stepResults = executed.map (·.id)
      ∧ List.Forall₂ (fun step span => ∃ entry, Fields.get? r.stepResults step.id = some entry
          ∧ span.Traces step entry)
        executed (d.run attempt options now params s).spans := by
  obtain ⟨executed, hfront, hnames, htraces⟩ := exists_traced_of_result (keyed_of_check hvalid) hr
  obtain ⟨visited, after, p, hsteps, hrecorded, hresults, hvisits⟩ :=
    exists_recorded_of_result hvalid hr
  -- The steps with a span and those with an entry are the first ones of the definition, as many as
  -- there are entries.
  have hsame : visited = executed := by
    have hlength : visited.length = executed.length := by
      have hentries := names_of_entries hrecorded.entries
      rw [hresults, hnames] at hentries
      have hlengths := congrArg List.length hentries
      rw [List.length_map, List.length_map] at hlengths
      exact hlengths.symm
    have hvisited : visited <+: d.steps := ⟨after, hsteps.symm⟩
    exact (List.prefix_of_prefix_length_le hvisited hfront hlength.le).eq_of_length hlength
  have hcalled := hrecorded.visited_iff
  rw [hvisits, hsame] at hcalled
  exact ⟨executed, hfront, hcalled, hnames, htraces⟩

/-- The first step is skipped after one attempt, and the second one succeeds at its second. -/
theorem trace_agrees_priceNotice :
    (priceNotice.check (.text "1.0")).valid = true ∧ ∃ r,
      (priceNotice.run thirdTime {} (.int 1000) ⟨.null, .null, .null, .null, .null⟩ 0).outcome
        = .ok r
      ∧ (r.stepResults.map fun entry => (entry.2.status, entry.2.attempts))
        = [(.skipped, 1), (.succeeded, 2)]
      ∧ List.Forall₂ (fun step span => ∃ entry, Fields.get? r.stepResults step.id = some entry
          ∧ span.Traces step entry) priceNotice.steps
        (priceNotice.run thirdTime {} (.int 1000) ⟨.null, .null, .null, .null, .null⟩ 0).spans := by
  have hvalid : (priceNotice.check (.text "1.0")).valid = true := by decide
  have hr : (priceNotice.run thirdTime {} (.int 1000) ⟨.null, .null, .null, .null, .null⟩
      0).outcome = .ok _ := rfl
  obtain ⟨executed, hfront, -, hnames, htraces⟩ := trace_agrees hvalid hr
  have hlength : executed.length = priceNotice.steps.length := by
    have htwo := congrArg List.length hnames
    rw [List.length_map] at htwo
    exact htwo.symm
  rw [hfront.eq_of_length hlength] at htraces
  exact ⟨hvalid, _, hr, rfl, htraces⟩

end Workflow
