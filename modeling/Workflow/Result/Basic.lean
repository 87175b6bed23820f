import Workflow.Definition.Shape
import Workflow.Value.Portable

/-!
# Results of runs
-/

namespace Workflow

/-- The status of a step. -/
inductive StepStatus where
  | pending
  | running
  | succeeded
  | failed
  | skipped
  deriving DecidableEq, Repr

/-- The name of a status. -/
def StepStatus.name : StepStatus → String
  | .pending => "pending"
  | .running => "running"
  | .succeeded => "succeeded"
  | .failed => "failed"
  | .skipped => "skipped"

/-- The outcome of a step within a run. -/
structure StepResult where
  /-- Whether the step succeeded. -/
  success : Bool := false
  /-- The output of the step. -/
  output : Value := .null
  /-- What went wrong. -/
  error : Option String := none
  /-- The status of the step. -/
  status : StepStatus := .succeeded
  /-- The number of attempts made. -/
  attempts : Int := 1

/-- The outcome of a run. -/
structure Result where
  /-- Whether the run succeeded. -/
  success : Bool
  /-- The output of the workflow. -/
  output : List (String × Value) := []
  /-- The outcomes of the steps by id, in the order of execution. -/
  stepResults : List (String × StepResult) := []
  /-- What went wrong. -/
  error : Option String := none

/-- The statuses by name. -/
def StepStatus.choices : List (String × StepStatus) :=
  [StepStatus.pending, .running, .succeeded, .failed, .skipped].map fun s => (s.name, s)

/-- The fields of a step's outcome. -/
def StepResult.setter : Shape.Setter StepResult
  | "success" => some fun r v => return { r with success := ← Shape.bool v }
  | "output" => some fun r v => .ok { r with output := v }
  | "error" => some fun r v => return { r with error := ← Shape.textOrNull v }
  | "status" => some fun r v => return { r with status := ← Shape.choice StepStatus.choices v }
  | "attempts" => some fun r v => return { r with attempts := ← Shape.int v }
  | _ => none

/-- Reads a step's outcome. -/
def StepResult.ofValue? : Value → Shape.Reading StepResult :=
  Shape.record true ["success"] setter {}

/-! ### Wire form -/

/-- The wire form of a step's outcome. -/
def StepResult.toValue (r : StepResult) : Value :=
  .record [("success", .bool r.success), ("output", r.output), ("error", optionalText r.error),
    ("status", .text r.status.name), ("attempts", .int r.attempts)]

/-- The wire form of a run's outcome. -/
def Result.toValue (r : Result) : Value :=
  .record [("success", .bool r.success), ("output", .record r.output),
    ("stepResults", .record (r.stepResults.map fun (id, s) => (id, s.toValue))),
    ("error", optionalText r.error)]

/-- The wire form of a run's outcome with portable values only. -/
def Result.toPortable (r : Result) : Value := r.toValue.portable

end Workflow
