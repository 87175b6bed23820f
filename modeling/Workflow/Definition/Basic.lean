import Workflow.Text.Hex
import Workflow.Value.Basic

/-!
# Workflow definitions

A workflow is a list of steps that run in order and a mapping that forms its output.  A step has
an identity and one action: an HTTP request, one contract call, a batch of contract calls, a
condition or a transformation.  Places that the author fills with data are values whose texts may
be expressions.
-/

namespace Workflow

/-- What happens when a step fails. -/
inductive OnError where
  | fail
  | skip
  | retry
  deriving DecidableEq, Repr

/-- The methods that a request can be given in a definition. -/
inductive Method where
  | get
  | post
  | put
  | patch
  | delete
  deriving DecidableEq, Repr

/-- The name of a method on the wire. -/
def Method.name : Method → String
  | .get => "GET"
  | .post => "POST"
  | .put => "PUT"
  | .patch => "PATCH"
  | .delete => "DELETE"

/-- An HTTP request, either to a stored endpoint or to a URL. -/
structure HttpConfig where
  /-- The id of a stored endpoint. -/
  proxyId : Option String := none
  /-- The URL of the request. -/
  url : Option String := none
  /-- The method of a request to a URL. -/
  method : Option Method := none
  /-- The headers of the step itself. -/
  headers : Option (List (String × Value)) := none
  /-- The body. -/
  body : Value := .null

/-- An amount of the native currency as written in a definition. -/
inductive Amount where
  /-- A numeral or an expression. -/
  | written (s : String)
  /-- A number. -/
  | number (n : Int)

/-- The amount as a value. -/
def Amount.toValue : Amount → Value
  | .written s => .text s
  | .number n => .int n

/-- The description of a contract function as written in a definition. -/
inductive FragmentSource where
  /-- A declaration or a JSON text. -/
  | written (s : String)
  /-- A JSON interface entry. -/
  | entry (fields : List (String × Value))

/-- The description as a value. -/
def FragmentSource.toValue : FragmentSource → Value
  | .written s => .text s
  | .entry fields => .record fields

/-- One contract call.  The call data comes from `calldata`, else from `selector`, `fragment` and
`arguments` together, else from `selector` alone. -/
structure Operation where
  /-- The address of the contract, or an expression for it. -/
  target : String := ""
  /-- The name of the operation in messages. -/
  name : Option String := none
  /-- The amount sent along. -/
  amount : Option Amount := none
  /-- Prepared call data, or an expression for it. -/
  calldata : Option String := none
  /-- The selector of the function. -/
  selector : Option String := none
  /-- The description of the function. -/
  fragment : Option FragmentSource := none
  /-- The arguments by parameter name. -/
  arguments : Option (List (String × Value)) := none

/-- A text unless it is empty. -/
def nonempty? (s : Option String) : Option String := s.filter (!·.isEmpty)

/-- How messages name an operation. -/
def Operation.label (op : Operation) : String := (nonempty? op.name).getD "unnamed"

/-- A condition.  The labels name other steps for the reader; they do not change the order of
execution. -/
structure ConditionConfig where
  /-- What is tested. -/
  expression : Value := .null
  /-- The step named for a true outcome. -/
  onTrue : Option String := none
  /-- The step named for a false outcome. -/
  onFalse : Option String := none

/-- What a step does.  A part that the definition leaves out is `none`. -/
inductive Action where
  /-- Sends an HTTP request. -/
  | http (config : Option HttpConfig)
  /-- Submits one contract call. -/
  | onchain (operation : Option Operation)
  /-- Submits several contract calls as one transaction. -/
  | onchainBatch (operations : Option (List Operation))
  /-- Tests a condition. -/
  | condition (config : Option ConditionConfig)
  /-- Forms a value. -/
  | transform (expression : Option Value)

/-- The name of an action's kind on the wire. -/
def Action.kind : Action → String
  | .http _ => "http"
  | .onchain _ => "onchain"
  | .onchainBatch _ => "onchain_batch"
  | .condition _ => "condition"
  | .transform _ => "transform"

/-- What all steps have in common. -/
structure StepHeader where
  /-- The identity of the step within its workflow. -/
  id : String := ""
  /-- The name of the step in messages. -/
  name : String := ""
  /-- A second key under which the output is recorded. -/
  outputAs : String := ""
  /-- What happens when the step fails. -/
  onError : OnError := .fail
  /-- Kept for the author; it has no effect. -/
  inputMapping : Option (List (String × String)) := none
  /-- Kept for the author; it has no effect. -/
  requiresApproval : Option Bool := none

/-- How messages name a step. -/
def StepHeader.label (header : StepHeader) : String :=
  if header.name.isEmpty then header.id else header.name

/-- A step of a workflow. -/
structure Step extends StepHeader where
  /-- What the step does. -/
  action : Action

/-- How messages name a step. -/
def Step.label (step : Step) : String := step.toStepHeader.label

/-- A call target that is allowed beyond those known when the definition is written. -/
structure AllowedTarget where
  /-- The address. -/
  address : String := ""
  /-- The name of the target. -/
  name : Option String := none
  /-- A remark. -/
  description : Option String := none

/-- A workflow. -/
structure Definition where
  /-- The version of the definition format. -/
  version : String := ""
  /-- The steps in the order of execution. -/
  steps : List Step := []
  /-- The output, with expressions for the parts that the run supplies. -/
  outputMapping : List (String × Value) := []
  /-- The allowed dynamic targets, if the definition restricts them. -/
  scope : Option (List AllowedTarget) := none

/-- The operations that a step submits. -/
def Step.operations (step : Step) : List Operation :=
  match step.action with
  | .onchain (some op) => [op]
  | .onchainBatch (some ops) => ops
  | _ => []

end Workflow
