import Workflow.Call.Step
import Workflow.Http.Step

/-!
# Handlers

Every kind of step has a handler, which runs a single attempt at a step of this kind.  An attempt
looks for the handler of its step first.
-/

namespace Workflow

/-- The handlers. -/
inductive Handler where
  | http
  | onchain
  | onchainBatch
  | condition
  | transform
  deriving DecidableEq, Repr

/-- What a handler is asked for. -/
inductive Candidate where
  /-- A step of a definition. -/
  | step (s : Step)
  /-- Something else, of the given kind. -/
  | other (kind : String)

/-- The handler of a step. -/
def Step.handler (step : Step) : Handler :=
  match step.action with
  | .http _ => .http
  | .onchain _ => .onchain
  | .onchainBatch _ => .onchainBatch
  | .condition _ => .condition
  | .transform _ => .transform

/-- The handler of a candidate. -/
def Candidate.handler : Candidate → Except Failure Handler
  | .step s => .ok s.handler
  | .other kind => .error (.misconfigured (.unknownStep kind))

/-- The output of a condition. -/
def evaluateCondition (id : String) (config : Option ConditionConfig) (c : Context) :
    Except Failure Value :=
  match config with
  | none => .error (.misconfigured (.breach (.conditionMissing id)))
  | some config => (c.resolveAll config.expression).map fun v => .bool v.isTruthy

/-- The output of a transformation. -/
def evaluateTransform (id : String) (expression : Option Value) (c : Context) :
    Except Failure Value :=
  match expression with
  | none => .error (.misconfigured (.breach (.transformMissing id)))
  | some e => c.resolveAll e

/-- The member of a step that a handler reads. -/
def Handler.member : Handler → String
  | .http => "http"
  | .onchain => "onchain"
  | .onchainBatch => "onchain_batch"
  | .condition => "condition"
  | .transform => "transform"

/-- What messages call the steps with an action. -/
def Action.className : Action → String
  | .http _ => "HttpStep"
  | .onchain _ => "OnchainStep"
  | .onchainBatch _ => "OnchainBatchStep"
  | .condition _ => "ConditionStep"
  | .transform _ => "TransformStep"

/-- Runs one attempt at a step with a handler; a step of another kind has nothing for it to read. -/
def Handler.execute [Json.Nesting] {σ : Type} (handler : Handler) (services : Services σ)
    (channel : Http.Channel) (step : Step) (c : Context) : Act σ Value :=
  match handler, step.action with
  | .http, .http config => Http.runStep services channel step.id config c
  | .onchain, .onchain op => submitPrepared services (prepareOnchain step.id op c)
  | .onchainBatch, .onchainBatch ops => submitPrepared services (prepareOnchainBatch step.id ops c)
  | .condition, .condition config => Act.done (evaluateCondition step.id config c)
  | .transform, .transform e => Act.done (evaluateTransform step.id e c)
  | _, action => Act.done (.error (.fault (.noMember action.className handler.member)))

/-- Runs one attempt at a step. -/
def Step.perform [Json.Nesting] {σ : Type} (services : Services σ) (channel : Http.Channel)
    (step : Step) (c : Context) : Act σ Value :=
  (Act.done (Candidate.step step).handler).andThen fun handler =>
    handler.execute services channel step c

end Workflow
