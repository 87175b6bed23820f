import Workflow.Proofs.Engine.Outcome
import Mathlib.Data.List.Nodup

/-!
# Which entries report a success

A run that has a result has executed its first steps, one entry each (`exists_recorded_of_result`).
So a step succeeded, in that the last call of its handler did (`Step.succeeded`), exactly if there
is an entry under its id that says so (`succeeded_iff_entry`).
-/

namespace Workflow

variable {σ : Type}

/-- Whether a step succeeded, as the calls of its handler show. -/
def Step.succeeded (visits : List Visit) (step : Step) : Bool :=
  match outcomeOf? visits step with
  | some (.ok _) => true
  | _ => false

theorem Step.succeeded_iff {visits : List Visit} {step : Step} :
    step.succeeded visits = true ↔ ∃ output, outcomeOf? visits step = some (.ok output) := by
  rw [Step.succeeded]
  split
  · next output hout => exact ⟨fun _ => ⟨output, hout⟩, fun _ => rfl⟩
  · next hno => exact ⟨nofun, fun ⟨output, hout⟩ => absurd hout (hno output)⟩

theorem Step.succeeded_of_error {visits : List Visit} {step : Step} {e : Failure}
    (h : outcomeOf? visits step = some (.error e)) : step.succeeded visits = false := by
  rw [Step.succeeded, h]

/-- A step that was not called has no outcome. -/
theorem outcomeOf?_eq_none {visits : List Visit} {step : Step}
    (h : ∀ v ∈ visits, v.step.id ≠ step.id) : outcomeOf? visits step = none := by
  have hnone := @outcomeOf?_append_of_ne [] visits step h
  rwa [List.nil_append] at hnone

theorem stepResults_of_concludeRun {mapping : List (String × Value)} {c : Context}
    {results : List (String × StepResult)} {halt : Option Halt} {r : Result}
    (h : concludeRun mapping c results halt = .ok r) : r.stepResults = results := by
  cases halt with
  | none =>
    rw [concludeRun, finishRun] at h
    split at h
    · obtain rfl := Except.ok.inj h
      rfl
    · obtain rfl := Except.ok.inj h
      rfl
    · cases h
  | some halt =>
    cases halt with
    | failed label text =>
      obtain rfl := Except.ok.inj h
      rfl
    | broken e => cases h

/-- A run with a result has recorded one entry for each of its first steps. -/
theorem exists_recorded_of_result {d : Definition} {version : Value}
    (hvalid : (d.check version).valid = true) {attempt : Step → Context → Act σ Value}
    {options : Options} {now : Value} {params : RunParams} {s : σ} {r : Result}
    (hr : (d.run attempt options now params s).outcome = .ok r) :
    ∃ executed after, ∃ p : Progress (σ × List Visit), d.steps = executed ++ after ∧
      Recorded executed p ∧ p.results = r.stepResults ∧
      p.world.2 = d.visits attempt options now params s := by
  have hkeyed := keyed_of_check hvalid
  rw [run_noting d attempt options now params s []] at hr
  rw [Definition.visits]
  rw [Definition.run] at hr ⊢
  cases hc : Context.start params options now with
  | error e =>
    rw [hc] at hr
    cases hr
  | ok c =>
    rw [hc] at hr
    rcases hrun : runSteps (noting attempt) options d.steps
      { context := c, world := (s, []) } with ⟨p, halt⟩
    simp only [hrun, Execution.under] at hr ⊢
    have hresults := stepResults_of_concludeRun hr
    rcases recorded_runSteps hkeyed (noted_start hc d.steps s) (recorded_start c s) hrun with
      ⟨rfl, -, hrecorded⟩ |
        ⟨before, step, after, q, halt, hsteps, ⟨hnoted, hrecorded⟩, hone, rfl⟩
    · exact ⟨d.steps, [], p, (List.append_nil _).symm, hrecorded, hresults.symm, rfl⟩
    · have hwhole : ∀ e, some halt ≠ some (.broken e) := by
        rintro e he
        rw [he] at hr
        cases hr
      rw [hsteps] at hkeyed hnoted
      refine ⟨before ++ [step], after, p, ?_, ?_, hresults.symm, rfl⟩
      · rw [hsteps, List.append_assoc, List.singleton_append]
      · exact (hrecorded.next hnoted hkeyed hone hwhole).1

theorem IsEntry.success_iff {visits : List Visit} {step : Step} {entry : String × StepResult}
    (h : IsEntry visits step entry) :
    entry.2.success = true ↔ step.succeeded visits = true := by
  obtain ⟨-, attempts, outcome, hout, hentry⟩ := h
  rw [hentry, Step.succeeded, hout]
  cases outcome with
  | ok output => exact Iff.rfl
  | error e => exact ⟨nofun, nofun⟩

/-- A step succeeded exactly if there is an entry under its id that says so. -/
theorem succeeded_iff_entry {d : Definition} {version : Value}
    (hvalid : (d.check version).valid = true) {attempt : Step → Context → Act σ Value}
    {options : Options} {now : Value} {params : RunParams} {s : σ} {r : Result}
    (hr : (d.run attempt options now params s).outcome = .ok r) {step : Step}
    (hstep : step ∈ d.steps) :
    step.succeeded (d.visits attempt options now params s) = true ↔
      ∃ entry ∈ r.stepResults, entry.1 = step.id ∧ entry.2.success = true := by
  obtain ⟨executed, after, p, hsteps, hrecorded, hresults, hvisits⟩ :=
    exists_recorded_of_result hvalid hr
  have hnodup : (d.steps.map (·.id)).Nodup := (keyed_of_check hvalid).ids_nodup
  rw [← hresults, ← hvisits]
  constructor
  · intro hsucceeded
    obtain ⟨output, hout⟩ := Step.succeeded_iff.mp hsucceeded
    -- A step with an outcome was called, so it is one of those that were executed.
    have hexecuted : step ∈ executed := by
      by_contra hnot
      have hnone : outcomeOf? p.world.2 step = none := by
        refine outcomeOf?_eq_none fun v hv hid => hnot ?_
        have hv' := (hrecorded.visited_iff v.step).mp ⟨v, hv, rfl⟩
        have hmem : v.step ∈ d.steps := by
          rw [hsteps]
          exact List.mem_append_left after hv'
        rwa [← List.inj_on_of_nodup_map hnodup hmem hstep hid]
      rw [hout] at hnone
      cases hnone
    obtain ⟨i, hi, rfl⟩ := List.mem_iff_getElem.mp hexecuted
    have hi' : i < p.results.length := by
      rw [← hrecorded.entries.length_eq]
      exact hi
    have hentry := hrecorded.entries.get hi hi'
    exact ⟨p.results[i], List.getElem_mem hi', hentry.1, hentry.success_iff.mpr hsucceeded⟩
  · rintro ⟨entry, hmem, hid, hsuccess⟩
    obtain ⟨i, hi, rfl⟩ := List.mem_iff_getElem.mp hmem
    have hi' : i < executed.length := by
      rw [hrecorded.entries.length_eq]
      exact hi
    have hentry := hrecorded.entries.get hi' hi
    have hin : executed[i] ∈ d.steps := by
      rw [hsteps]
      exact List.mem_append_left after (List.getElem_mem hi')
    have hsame : executed[i] = step :=
      List.inj_on_of_nodup_map hnodup hin hstep (hentry.1.symm.trans hid)
    rw [← hsame]
    exact hentry.success_iff.mp hsuccess

end Workflow
