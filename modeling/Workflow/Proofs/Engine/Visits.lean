import Workflow.Proofs.Context.Recording
import Workflow.Proofs.Engine.Attempts
import Workflow.Proofs.Engine.View

/-!
# The calls of handlers in a run

`noting` turns any handlers into handlers that also note each of their calls: the step, the context
that the call saw, and how it ended.  The notes of a whole run are its visits
(`Definition.visits`); taking them changes nothing else (`run_noting`).

What the steps so far must have left in the context can be read off the visits alone:
`outcomeOf?` is how the last call for a step ended, and `publishedBy` is what follows from it for
some steps in order.
-/

namespace Workflow

variable {σ : Type}

/-! ### Noting calls -/

/-- A call of a step's handler. -/
structure Visit where
  /-- The step. -/
  step : Step
  /-- The context that the call saw. -/
  context : Context
  /-- How the call ended. -/
  outcome : Except Failure Value

/-- Handlers that note their calls behind those noted before. -/
def noting (attempt : Step → Context → Act σ Value) (step : Step) (c : Context) :
    Act (σ × List Visit) Value := (attempt step c).noted fun outcome => ⟨step, c, outcome⟩

/-- The calls of handlers in a run, in order. -/
def Definition.visits (d : Definition) (attempt : Step → Context → Act σ Value)
    (options : Options) (now : Value) (params : RunParams) (s : σ) : List Visit :=
  (d.run (noting attempt) options now params (s, [])).world.2

theorem noting_refines (attempt : Step → Context → Act σ Value) (step : Step) (c : Context) :
    Act.Refines Prod.fst (noting attempt step c) (attempt step c) := fun _ => rfl

/-- A run goes the same way whether its calls are noted or not. -/
theorem run_noting (d : Definition) (attempt : Step → Context → Act σ Value) (options : Options)
    (now : Value) (params : RunParams) (s : σ) (visits : List Visit) :
    d.run attempt options now params s
      = (d.run (noting attempt) options now params (s, visits)).under Prod.fst :=
  run_under (noting_refines attempt) d options now params (s, visits)

/-! ### The calls for one step -/

/-- The first calls for a step, all of them in one context. -/
def firstCalls (attempt : Step → Context → Act σ Value) (step : Step) (c : Context) (s : σ)
    (n : Nat) : List Visit :=
  (List.range n).map fun i => ⟨step, c, Act.outcomeAt (attempt step c) i s⟩

theorem worldAfter_noting (attempt : Step → Context → Act σ Value) (step : Step) (c : Context)
    (n : Nat) (s : σ) (visits : List Visit) :
    Act.worldAfter (noting attempt step c) n (s, visits)
      = (Act.worldAfter (attempt step c) n s, visits ++ firstCalls attempt step c s n) :=
  Act.worldAfter_noted _ (attempt step c) n s visits

theorem outcomeAt_noting (attempt : Step → Context → Act σ Value) (step : Step) (c : Context)
    (n : Nat) (s : σ) (visits : List Visit) :
    Act.outcomeAt (noting attempt step c) n (s, visits)
      = Act.outcomeAt (attempt step c) n s :=
  Act.outcomeAt_noted _ (attempt step c) n s visits

theorem mem_firstCalls {attempt : Step → Context → Act σ Value} {step : Step} {c : Context}
    {s : σ} {n : Nat} {v : Visit} (h : v ∈ firstCalls attempt step c s n) :
    v.step = step ∧ v.context = c := by
  obtain ⟨i, -, rfl⟩ := List.mem_map.mp h
  exact ⟨rfl, rfl⟩

/-! ### What visits show -/

/-- How the last call for a step ended, if there was one. -/
def outcomeOf? (visits : List Visit) (step : Step) : Option (Except Failure Value) :=
  ((visits.filter fun v => v.step.id == step.id).map (·.outcome)).getLast?

/-- What some steps must have left in the context, as visits show how the steps ended. -/
def publishedBy (visits : List Visit) (steps : List Step) : List (String × Value) :=
  steps.flatMap fun step => ((outcomeOf? visits step).map step.published).getD []

theorem outcomeOf?_append_of_ne {visits more : List Visit} {step : Step}
    (h : ∀ v ∈ more, v.step.id ≠ step.id) :
    outcomeOf? (visits ++ more) step = outcomeOf? visits step := by
  have hnone : more.filter (fun v => v.step.id == step.id) = [] := by
    rw [List.filter_eq_nil_iff]
    intro v hv
    simpa using h v hv
  rw [outcomeOf?, List.filter_append, hnone, List.append_nil, outcomeOf?]

/-- The calls for a step end as the last one of them does. -/
theorem outcomeOf?_append_firstCalls (visits : List Visit)
    (attempt : Step → Context → Act σ Value) (step : Step) (c : Context) (s : σ) (last : Nat) :
    outcomeOf? (visits ++ firstCalls attempt step c s (last + 1)) step
      = some (Act.outcomeAt (attempt step c) last s) := by
  rw [firstCalls, List.range_succ, List.map_append, ← List.append_assoc, outcomeOf?,
    List.filter_append]
  simp

theorem publishedBy_append_of_ne {visits more : List Visit} {steps : List Step}
    (h : ∀ v ∈ more, ∀ step ∈ steps, v.step.id ≠ step.id) :
    publishedBy (visits ++ more) steps = publishedBy visits steps := by
  rw [publishedBy, publishedBy, List.flatMap_def, List.flatMap_def]
  congr 1
  refine List.map_congr_left fun step hstep => ?_
  rw [outcomeOf?_append_of_ne fun v hv => h v hv step hstep]

theorem publishedBy_append (visits : List Visit) (steps more : List Step) :
    publishedBy visits (steps ++ more) = publishedBy visits steps ++ publishedBy visits more :=
  List.flatMap_append

theorem publishedBy_singleton {visits : List Visit} {step : Step}
    {outcome : Except Failure Value} (h : outcomeOf? visits step = some outcome) :
    publishedBy visits [step] = step.published outcome := by
  simp [publishedBy, h]

theorem mem_outputKeys_of_publishedBy {visits : List Visit} {steps : List Step}
    {entry : String × Value} (h : entry ∈ publishedBy visits steps) :
    ∃ step ∈ steps, entry.1 ∈ step.outputKeys := by
  obtain ⟨step, hstep, hentry⟩ := List.mem_flatMap.mp h
  refine ⟨step, hstep, ?_⟩
  cases hout : outcomeOf? visits step with
  | none => simp [hout] at hentry
  | some outcome =>
    rw [hout] at hentry
    exact Step.mem_outputKeys_of_published hentry

end Workflow
