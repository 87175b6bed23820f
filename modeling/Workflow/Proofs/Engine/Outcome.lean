import Workflow.Proofs.Engine.Visibility
import Workflow.Proofs.Expression.References
import Workflow.Proofs.Fields
import Mathlib.Data.List.Forall2

/-!
# What a result says about its run

The result of a run has one entry for each executed step, in order, and each entry reports how the
calls of that step's handler ended (`StepResult.Reports`).  The run is reported as a success exactly
if all steps were executed, none of them failed and the output mapping resolves; what is reported
otherwise names the step that failed or the expression that cannot be resolved.  `Result.Sound`
puts this together, and `result_sound` says that every result of a definition that passes its check
is sound.
-/

namespace Workflow

variable {σ : Type} {attempt : Step → Context → Act σ Value} {options : Options}

/-! ### Sound results -/

/-- What an entry reports about its step, as the calls of the step's handler show. -/
inductive StepResult.Reports (visits : List Visit) (step : Step) : StepResult → Prop where
  /-- The step succeeded with the output of its handler. -/
  | succeeded {output : Value} {attempts : Int} (h : outcomeOf? visits step = some (.ok output)) :
    Reports visits step
      { success := true, output, error := none, status := .succeeded, attempts }
  /-- The handler failed, and the step says that it may be skipped. -/
  | skipped {e : Failure} {attempts : Int} (h : outcomeOf? visits step = some (.error e))
    (hskip : step.onError = .skip) :
    Reports visits step
      { success := false, output := .null, error := some e.message, status := .skipped, attempts }
  /-- The handler failed, and the step says that this counts. -/
  | failed {e : Failure} {attempts : Int} (h : outcomeOf? visits step = some (.error e))
    (hfail : step.onError = .fail ∨ step.onError = .retry) :
    Reports visits step
      { success := false, output := .null, error := some e.message, status := .failed, attempts }

/-- What the entries of a result must say about a run with the given calls. -/
structure Result.Records (d : Definition) (visits : List Visit) (r : Result) : Prop where
  /-- The entries are those of the first steps, in order. -/
  keys_eq : Fields.names r.stepResults = (d.steps.take r.stepResults.length).map (·.id)
  /-- The steps with an entry are those whose handlers were called. -/
  visited_iff : ∀ step,
    (∃ v ∈ visits, v.step = step) ↔ step ∈ d.steps.take r.stepResults.length
  /-- Each entry reports how its step ended. -/
  reported : ∀ (i : Nat) (step : Step) (entry : String × StepResult), d.steps[i]? = some step →
    r.stepResults[i]? = some entry → entry.2.Reports visits step

/-- What a result must say about a run with the given calls that ended in the given context. -/
structure Result.Sound (d : Definition) (visits : List Visit) (final : Context) (r : Result) :
    Prop extends Result.Records d visits r where
  /-- A failed step is the last one, and the result names it and says why it failed. -/
  failed : ∀ (i : Nat) (step : Step) (entry : String × StepResult), d.steps[i]? = some step →
    r.stepResults[i]? = some entry → entry.2.status = .failed →
    i + 1 = r.stepResults.length ∧ r.output = [] ∧ ∃ text, entry.2.error = some text ∧
      r.error = some ("Step \"" ++ step.label ++ "\" failed: " ++ text)
  /-- A success is a run whose steps were all executed, without one that failed, and whose output
  mapping resolves. -/
  success_iff : r.success = true ↔ r.stepResults.length = d.steps.length ∧
    (∀ entry ∈ r.stepResults, entry.2.status ≠ .failed) ∧
    ∃ output, final.resolveFields d.outputMapping = .ok output
  /-- The output of a success is the resolved output mapping. -/
  output_eq : r.success = true →
    final.resolveFields d.outputMapping = .ok r.output ∧ r.error = none
  /-- An expression of the output mapping that cannot be resolved fails a run whose steps did
  not, and the result names the first one. -/
  unresolved : r.stepResults.length = d.steps.length →
    (∀ entry ∈ r.stepResults, entry.2.status ≠ .failed) →
    (∃ s ∈ expressionsInFields d.outputMapping, ∃ e, final.resolveText s = .error e) →
    r.success = false ∧ r.output = [] ∧ ∃ front s back,
      expressionsInFields d.outputMapping = front ++ s :: back ∧
      (∀ t ∈ front, ∃ w, final.resolveText t = .ok w) ∧
      final.resolveText s = .error (.unresolved s) ∧
      r.error = some ("Output mapping failed: " ++ unresolvedText s)

/-! ### Entries of executed steps -/

/-- An entry under the id of a step that says how the step ended. -/
def IsEntry (visits : List Visit) (step : Step) (entry : String × StepResult) : Prop :=
  entry.1 = step.id ∧ ∃ attempts outcome, outcomeOf? visits step = some outcome ∧
    entry.2 = step.verdict attempts outcome

theorem IsEntry.reports {visits : List Visit} {step : Step} {entry : String × StepResult}
    (h : IsEntry visits step entry) : entry.2.Reports visits step := by
  obtain ⟨-, attempts, outcome, hout, hentry⟩ := h
  rw [hentry]
  cases outcome with
  | ok output => exact .succeeded hout
  | error e =>
    rw [Step.verdict]
    cases hpolicy : step.onError with
    | skip => simpa [hpolicy] using StepResult.Reports.skipped hout hpolicy
    | fail => simpa [hpolicy] using StepResult.Reports.failed hout (Or.inl hpolicy)
    | retry => simpa [hpolicy] using StepResult.Reports.failed hout (Or.inr hpolicy)

/-- What a run has recorded about the executed steps. -/
structure Recorded (executed : List Step) (q : Progress (σ × List Visit)) : Prop where
  /-- There is one entry for each of them. -/
  entries : List.Forall₂ (IsEntry q.world.2) executed q.results
  /-- They are the steps whose handlers were called. -/
  visited_iff : ∀ step, (∃ v ∈ q.world.2, v.step = step) ↔ step ∈ executed

theorem names_of_entries {visits : List Visit} {executed : List Step}
    {results : List (String × StepResult)}
    (h : List.Forall₂ (IsEntry visits) executed results) :
    Fields.names results = executed.map (·.id) := by
  induction h with
  | nil => rfl
  | cons hentry _ ih =>
    rw [Fields.names, List.map_cons, List.map_cons, hentry.1, ← ih]
    rfl

/-- Calls for other steps change nothing of what the entries say. -/
theorem entries_append {visits more : List Visit} {executed : List Step}
    {results : List (String × StepResult)}
    (h : List.Forall₂ (IsEntry visits) executed results)
    (hmore : ∀ v ∈ more, ∀ step ∈ executed, v.step.id ≠ step.id) :
    List.Forall₂ (IsEntry (visits ++ more)) executed results := by
  have hsame : ∀ step ∈ executed, outcomeOf? (visits ++ more) step = outcomeOf? visits step :=
    fun step hstep => outcomeOf?_append_of_ne fun v hv => hmore v hv step hstep
  refine ((List.forall₂_and_left _ _).mpr ⟨hsame, h⟩).imp fun step entry hentry => ?_
  obtain ⟨hout, hid, attempts, outcome, hold, hverdict⟩ := hentry
  exact ⟨hid, attempts, outcome, hout.trans hold, hverdict⟩

/-! ### A single step -/

/-- The step that is executed next is recorded as it ends, and decides whether the run goes on. -/
theorem Recorded.next {before after : List Step} {step : Step} {q q' : Progress (σ × List Visit)}
    {halt : Option Halt} (h : Recorded before q)
    (hnoted : Noted (before ++ step :: after) before q)
    (hkeyed : Step.Keyed (before ++ step :: after))
    (hrun : runStep (noting attempt) options step q = (q', halt))
    (hwhole : ∀ e, halt ≠ some (.broken e)) :
    Recorded (before ++ [step]) q' ∧
      ∃ outcome, outcomeOf? q'.world.2 step = some outcome ∧ halt = step.haltAfter outcome := by
  obtain ⟨last, hattempted, hvisits⟩ := visits_runStep_noting attempt options step q
  have hfree := isRecorded_eq_false_of_shows hkeyed hnoted.shows step (List.mem_cons_self ..)
  have hne := id_ne_of_keyed hkeyed
  cases hend : (step.attempt options (noting attempt step q.context) q.world).outcome.worded with
  | broken f =>
    rw [runStep_of_broken rfl hend] at hrun
    exact absurd (Prod.mk.inj hrun).2.symm (hwhole f)
  | ended outcome =>
    rw [hrun] at hvisits
    rw [runStep_of_ended rfl hend hfree] at hrun
    obtain ⟨hq', hhalt⟩ := Prod.mk.inj hrun
    have hresults : q'.results = _ := (congrArg Progress.results hq').symm
    have hout : outcomeOf? q'.world.2 step = some outcome := by
      rw [hvisits, outcomeOf?_append_firstCalls, hattempted.eq_outcomeAt hend, outcomeAt_noting]
    refine ⟨⟨?_, ?_⟩, _, hout, hhalt.symm⟩
    · -- The id is new, so that the entry comes behind those of the steps before.
      have hnew : step.id ∉ Fields.names q.results := by
        rw [names_of_entries h.entries]
        intro hmem
        obtain ⟨earlier, hearlier, hid⟩ := List.mem_map.mp hmem
        exact hne earlier hearlier hid.symm
      have hold : List.Forall₂ (IsEntry q'.world.2) before q.results := by
        rw [hvisits]
        refine entries_append h.entries fun v hv earlier hearlier => ?_
        rw [(mem_firstCalls hv).1]
        exact hne earlier hearlier
      rw [hresults]
      simp only [Progress.note]
      rw [Fields.put_of_not_mem hnew]
      exact List.rel_append hold (.cons ⟨rfl, _, _, hout, rfl⟩ .nil)
    · intro s
      rw [hvisits]
      constructor
      · rintro ⟨v, hv, rfl⟩
        rcases List.mem_append.mp hv with hv | hv
        · exact List.mem_append_left _ ((h.visited_iff v.step).mp ⟨v, hv, rfl⟩)
        · rw [(mem_firstCalls hv).1]
          simp
      · intro hs
        rcases List.mem_append.mp hs with hs | hs
        · obtain ⟨v, hv, hstep⟩ := (h.visited_iff s).mpr hs
          exact ⟨v, List.mem_append_left _ hv, hstep⟩
        · rw [List.mem_singleton.mp hs]
          have hfirst := List.mem_range.mpr (Nat.succ_pos last)
          exact ⟨_, List.mem_append_right _ (List.mem_map_of_mem hfirst), rfl⟩

/-! ### The entries of a result -/

/-- The entry of a step is failed exactly if the step halts its run. -/
theorem IsEntry.status_ne_failed_iff {visits : List Visit} {step : Step}
    {entry : String × StepResult} {outcome : Except Failure Value}
    (h : IsEntry visits step entry) (hout : outcomeOf? visits step = some outcome) :
    entry.2.status ≠ .failed ↔ step.haltAfter outcome = none := by
  obtain ⟨-, attempts, outcome', hout', hentry⟩ := h
  obtain rfl := Option.some.inj (hout.symm.trans hout')
  rw [hentry]
  cases outcome with
  | ok output => simp [Step.verdict, Step.haltAfter]
  | error e => by_cases hskip : step.onError = .skip <;> simp [Step.verdict, Step.haltAfter, hskip]

/-- A step that halts its run leaves the text of its failure in its entry. -/
theorem IsEntry.error_eq {visits : List Visit} {step : Step} {entry : String × StepResult}
    {outcome : Except Failure Value} {halt : Halt} (h : IsEntry visits step entry)
    (hout : outcomeOf? visits step = some outcome) (hhalt : step.haltAfter outcome = some halt) :
    ∃ text, entry.2.error = some text ∧ halt = .failed step.label text := by
  obtain ⟨-, attempts, outcome', hout', hentry⟩ := h
  obtain rfl := Option.some.inj (hout.symm.trans hout')
  cases outcome with
  | ok output => cases hhalt
  | error e =>
    rw [Step.haltAfter] at hhalt
    split_ifs at hhalt
    refine ⟨e.message, ?_, (Option.some.inj hhalt).symm⟩
    rw [hentry, Step.verdict]

theorem isEntry_of_getElem? {visits : List Visit} {executed after : List Step}
    {results : List (String × StepResult)} (h : List.Forall₂ (IsEntry visits) executed results)
    {i : Nat} {step : Step} {entry : String × StepResult}
    (hstep : (executed ++ after)[i]? = some step) (hentry : results[i]? = some entry) :
    executed[i]? = some step ∧ IsEntry visits step entry := by
  obtain ⟨hi, hget⟩ := List.getElem?_eq_some_iff.mp hentry
  have hi' : i < executed.length := by
    rw [h.length_eq]
    exact hi
  rw [List.getElem?_append_left hi'] at hstep
  obtain ⟨_, hget'⟩ := List.getElem?_eq_some_iff.mp hstep
  refine ⟨hstep, ?_⟩
  rw [← hget, ← hget']
  exact h.get hi' hi

/-- As long as no step has halted the run, no entry is failed. -/
theorem status_ne_failed_of_shows {visits : List Visit} {c : Context} {steps : List Step}
    {results : List (String × StepResult)} (h : List.Forall₂ (IsEntry visits) steps results)
    (hshows : c.Shows visits steps) : ∀ entry ∈ results, entry.2.status ≠ .failed := by
  intro entry hentry
  obtain ⟨i, hi, rfl⟩ := List.mem_iff_getElem.mp hentry
  have hi' : i < steps.length := by
    rw [h.length_eq]
    exact hi
  obtain ⟨outcome, hout, hgo⟩ := hshows.settled steps[i] (List.getElem_mem hi')
  exact ((h.get hi' hi).status_ne_failed_iff hout).mpr hgo

/-! ### Results -/

/-- The failure of an expression that leads nowhere names the expression. -/
theorem Context.eq_of_resolveText_eq_unresolved {c : Context} {s expression : String}
    (h : c.resolveText s = .error (.unresolved expression)) : expression = s := by
  unfold Context.resolveText at h
  split at h
  · unfold Context.resolvePath at h
    split at h
    · cases h
    · next e _ =>
      cases e with
      | nothing => exact (Failure.unresolved.inj (Except.error.inj h)).symm
      | unreadableIndex => cases h
  · cases h

/-- The entries of a result whose run was carried as far as the given steps. -/
theorem Recorded.records {d : Definition} {executed after : List Step}
    {p : Progress (σ × List Visit)} {r : Result} (h : Recorded executed p)
    (hsteps : d.steps = executed ++ after) (hr : r.stepResults = p.results) :
    r.Records d p.world.2 := by
  have htake : d.steps.take r.stepResults.length = executed := by
    rw [hsteps, hr, ← h.entries.length_eq, List.take_left]
  constructor
  case keys_eq => rw [htake, hr, names_of_entries h.entries]
  case visited_iff => rw [htake]; exact h.visited_iff
  case reported =>
    intro i step entry hstep hentry
    rw [hsteps] at hstep
    rw [hr] at hentry
    exact (isEntry_of_getElem? h.entries hstep hentry).2.reports

/-- The result of a run whose steps have all been executed. -/
theorem Recorded.sound_of_finished {d : Definition} {p : Progress (σ × List Visit)} {r : Result}
    (h : Recorded d.steps p) (hshows : p.context.Shows p.world.2 d.steps)
    (hr : finishRun d.outputMapping p.context p.results = .ok r) :
    r.Sound d p.world.2 p.context := by
  have hlength := h.entries.length_eq
  have hnone := status_ne_failed_of_shows h.entries hshows
  have hsteps : d.steps = d.steps ++ [] := (List.append_nil d.steps).symm
  -- No step has failed, so that the output mapping alone decides about the success.
  unfold finishRun at hr
  split at hr
  · next output hmapping =>
    obtain rfl := Except.ok.inj hr
    refine { h.records hsteps rfl with failed := ?_, success_iff := ?_, output_eq := ?_,
                                       unresolved := ?_ }
    · intro i step entry _ hentry hfailed
      exact absurd hfailed (hnone entry (List.mem_of_getElem? hentry))
    · exact ⟨fun _ => ⟨hlength.symm, hnone, output, hmapping⟩, fun _ => rfl⟩
    · exact fun _ => ⟨hmapping, rfl⟩
    · rintro - - ⟨s, hs, e, he⟩
      exact absurd hmapping (Context.resolveFields_ne_ok hs he output)
  · next expression hmapping =>
    obtain rfl := Except.ok.inj hr
    refine { h.records hsteps rfl with failed := ?_, success_iff := ?_, output_eq := ?_,
                                       unresolved := ?_ }
    · intro i step entry _ hentry hfailed
      exact absurd hfailed (hnone entry (List.mem_of_getElem? hentry))
    · constructor
      · intro hsuccess
        cases hsuccess
      · rintro ⟨-, -, output, hok⟩
        rw [hmapping] at hok
        cases hok
    · intro hsuccess
      cases hsuccess
    · -- The first expression that cannot be resolved is the one that the failure names.
      intro _ _ _
      have houtcome := p.context.resolveFields_outcome d.outputMapping
      rw [hmapping] at houtcome
      obtain ⟨front, s, back, hsplit, hfront, hs⟩ :=
        Context.exists_of_resolveEach_eq_error houtcome.symm
      obtain rfl := Context.eq_of_resolveText_eq_unresolved hs
      exact ⟨rfl, rfl, front, expression, back, hsplit, hfront, hs, rfl⟩
  · cases hr

/-- The result of a run that a step has halted. -/
theorem Recorded.sound_of_halted {d : Definition} {before after : List Step} {step : Step}
    {p : Progress (σ × List Visit)} {c : Context} {outcome : Except Failure Value} {halt : Halt}
    {r : Result} (h : Recorded (before ++ [step]) p) (hsteps : d.steps = before ++ step :: after)
    (hshows : c.Shows p.world.2 before) (hout : outcomeOf? p.world.2 step = some outcome)
    (hhalt : step.haltAfter outcome = some halt)
    (hr : concludeRun d.outputMapping p.context p.results (some halt) = .ok r) :
    r.Sound d p.world.2 p.context := by
  have hsplit : d.steps = (before ++ [step]) ++ after := by
    rw [hsteps, List.append_assoc, List.singleton_append]
  have hlength : p.results.length = before.length + 1 := by
    rw [← h.entries.length_eq, List.length_append, List.length_singleton]
  have hof : ∀ {i : Nat} {step' : Step} {entry : String × StepResult},
      d.steps[i]? = some step' → p.results[i]? = some entry →
      (before ++ [step])[i]? = some step' ∧ IsEntry p.world.2 step' entry := by
    intro i step' entry hstep' hentry
    rw [hsplit] at hstep'
    exact isEntry_of_getElem? h.entries hstep' hentry
  -- The last entry is that of the step that halts the run.
  have hstep : d.steps[before.length]? = some step := by simp [hsteps]
  obtain ⟨last, hlast⟩ : ∃ last, p.results[before.length]? = some last :=
    ⟨_, List.getElem?_eq_getElem (by omega)⟩
  have hentry := (hof hstep hlast).2
  have hfailed : last.2.status = .failed := by
    by_contra hne
    have hgo := (hentry.status_ne_failed_iff hout).mp hne
    rw [hhalt] at hgo
    cases hgo
  have hnotnone : ¬ ∀ entry ∈ p.results, entry.2.status ≠ .failed :=
    fun hnone => hnone last (List.mem_of_getElem? hlast) hfailed
  obtain ⟨text, htext, rfl⟩ := hentry.error_eq hout hhalt
  obtain rfl := Except.ok.inj hr
  refine { h.records hsplit rfl with failed := ?_, success_iff := ?_, output_eq := ?_,
                                     unresolved := ?_ }
  · intro i step' entry' hstep' hentry' hfailed'
    have hi : i < p.results.length := (List.getElem?_eq_some_iff.mp hentry').1
    rcases Nat.lt_or_ge i before.length with hlt | hge
    · obtain ⟨hmem, hentry''⟩ := hof hstep' hentry'
      rw [List.getElem?_append_left hlt] at hmem
      obtain ⟨outcome', hout', hgo⟩ := hshows.settled step' (List.mem_of_getElem? hmem)
      exact absurd hfailed' ((hentry''.status_ne_failed_iff hout').mpr hgo)
    · -- There is one entry behind those of the steps before.
      obtain rfl : i = before.length := by omega
      obtain rfl := Option.some.inj (hstep.symm.trans hstep')
      obtain rfl := Option.some.inj (hlast.symm.trans hentry')
      exact ⟨hlength.symm, rfl, text, htext, rfl⟩
  · constructor
    · intro hsuccess
      cases hsuccess
    · rintro ⟨-, hnone, -⟩
      exact absurd hnone hnotnone
  · intro hsuccess
    cases hsuccess
  · intro _ hnone _
    exact absurd hnone hnotnone

/-! ### Whole runs -/

theorem recorded_start (c : Context) (s : σ) :
    Recorded [] ({ context := c, world := (s, []) } : Progress (σ × List Visit)) where
  entries := .nil
  visited_iff step := by simp

/-- The steps of a run up to the one that halts it, or to the end: their calls are noted, and there
is one entry for each of them. -/
theorem recorded_runSteps {steps : List Step} (hkeyed : Step.Keyed steps)
    {q p : Progress (σ × List Visit)} {h : Option Halt} (hnoted : Noted steps [] q)
    (hrecorded : Recorded [] q) (hrun : runSteps (noting attempt) options steps q = (p, h)) :
    (h = none ∧ Noted steps steps p ∧ Recorded steps p) ∨
      ∃ before step after q halt, steps = before ++ step :: after ∧
        (Noted steps before q ∧ Recorded before q) ∧
        runStep (noting attempt) options step q = (p, some halt) ∧ h = some halt := by
  -- `Recorded` is not kept on its own: that the next id is new comes from `Noted`.
  have hstep : ∀ before step after q q', steps = before ++ step :: after →
      Noted steps before q ∧ Recorded before q →
      runStep (noting attempt) options step q = (q', none) →
      Noted steps (before ++ [step]) q' ∧ Recorded (before ++ [step]) q' := by
    rintro before step after q q' rfl ⟨hq, hrec⟩ hone
    exact ⟨hq.next hkeyed hone, (hrec.next hq hkeyed hone (by simp)).1⟩
  exact runSteps_invariant ⟨hnoted, hrecorded⟩ hstep hrun

/-- **Soundness of results.** Every result of a definition that passes its check says what happened
in the run, as the calls of the handlers and the final context show. -/
theorem result_sound {d : Definition} {version : Value}
    (hvalid : (d.check version).valid = true) {attempt : Step → Context → Act σ Value}
    {options : Options} {now : Value} {params : RunParams} {s : σ} {r : Result}
    (hr : (d.run attempt options now params s).outcome = .ok r) :
    ∃ c p halt, Context.start params options now = .ok c ∧
      runSteps attempt options d.steps { context := c, world := s } = (p, halt) ∧
      r.Sound d (d.visits attempt options now params s) p.context := by
  have hkeyed := keyed_of_check hvalid
  unfold Definition.run at hr
  cases hc : Context.start params options now with
  | error e =>
    rw [hc] at hr
    cases hr
  | ok c =>
    rcases hrun : runSteps (noting attempt) options d.steps
      { context := c, world := (s, []) } with ⟨p, halt⟩
    have hplain := runSteps_under (noting_refines attempt) options d.steps
      { context := c, world := (s, []) }
    rw [hrun] at hplain
    refine ⟨c, p.under Prod.fst, halt, rfl, hplain, ?_⟩
    have hconclude : concludeRun d.outputMapping p.context p.results halt = .ok r := by
      simp only [Progress.under] at hplain
      rw [hc] at hr
      simp only [hplain] at hr
      exact hr
    rw [visits_eq d attempt s hc, hrun]
    rcases recorded_runSteps hkeyed (noted_start hc d.steps s) (recorded_start c s) hrun with
      ⟨rfl, hnoted, hrecorded⟩ |
        ⟨before, step, after, q, halt, hsteps, ⟨hnoted, hrecorded⟩, hone, rfl⟩
    · exact hrecorded.sound_of_finished hnoted.shows hconclude
    · -- A run that breaks off has no result.
      have hwhole : ∀ e, some halt ≠ some (.broken e) := by
        rintro e he
        rw [he] at hconclude
        cases hconclude
      rw [hsteps] at hkeyed hnoted
      have hshows := hnoted.shows_runStep hkeyed attempt options
      rw [hone] at hshows
      obtain ⟨hnext, outcome, hout, hhalt⟩ := hrecorded.next hnoted hkeyed hone hwhole
      exact hnext.sound_of_halted hsteps hshows hout hhalt.symm hconclude

/-- The run with a skipped step is a success. -/
theorem result_sound_priceNotice :
    (priceNotice.check (.text "1.0")).valid = true ∧ ∃ r c p halt,
      (priceNotice.run thirdTime {} (.int 1000) ⟨.null, .null, .null, .null, .null⟩ 0).outcome
        = .ok r ∧ r.success = true ∧
      Context.start ⟨.null, .null, .null, .null, .null⟩ {} (.int 1000) = .ok c ∧
      runSteps thirdTime {} priceNotice.steps { context := c, world := 0 } = (p, halt) ∧
      r.Sound priceNotice (priceNotice.visits thirdTime {} (.int 1000)
        ⟨.null, .null, .null, .null, .null⟩ 0) p.context := by
  have hvalid : (priceNotice.check (.text "1.0")).valid = true := by decide
  have hr : (priceNotice.run thirdTime {} (.int 1000) ⟨.null, .null, .null, .null, .null⟩
      0).outcome = .ok _ := rfl
  obtain ⟨c, p, halt, hc, hrun, hsound⟩ := result_sound hvalid hr
  exact ⟨hvalid, _, c, p, halt, hr, rfl, hc, hrun, hsound⟩

end Workflow
