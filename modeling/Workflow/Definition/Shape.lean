import Workflow.Definition.Basic
import Workflow.Shape

/-!
# The wire format of definitions

`Definition.ofValue?` reads a definition from the value that a JSON text denotes, and
`Definition.toValue` writes it with all fields, defaults included.
-/

namespace Workflow

open Shape (Reading Setter)

/-! ### Names on the wire -/

/-- The policies by name. -/
def OnError.choices : List (String × OnError) :=
  [("fail", .fail), ("skip", .skip), ("retry", .retry)]

/-- The name of a policy. -/
def OnError.name : OnError → String
  | .fail => "fail"
  | .skip => "skip"
  | .retry => "retry"

/-- The methods by name. -/
def Method.choices : List (String × Method) :=
  [Method.get, .post, .put, .patch, .delete].map fun m => (m.name, m)

/-! ### Reading -/

/-- The fields of a request. -/
def HttpConfig.setter : Setter HttpConfig
  | "proxyId" => some fun c v => return { c with proxyId := ← Shape.textOrNull v }
  | "url" => some fun c v => return { c with url := ← Shape.textOrNull v }
  | "method" => some fun c v => return { c with method := ← Shape.choiceOrNull Method.choices v }
  | "headers" => some fun c v => return { c with headers := ← Shape.mapOrNull Shape.anything v }
  | "bodyMapping" => some fun c v => .ok { c with body := v }
  | _ => none

/-- Reads a request. -/
def HttpConfig.ofValue? : Value → Reading HttpConfig := Shape.record true [] setter {}

/-- Reads an amount. -/
def Amount.ofValue? : Value → Reading (Option Amount)
  | .null => .ok none
  | .text s => .ok (some (.written s))
  | .int n => .ok (some (.number n))
  | v => Shape.mismatch "int | str | null" v

/-- Reads the description of a function. -/
def FragmentSource.ofValue? : Value → Reading (Option FragmentSource)
  | .null => .ok none
  | .text s => .ok (some (.written s))
  | .record fields => .ok (some (.entry fields))
  | v => Shape.mismatch "str | object | null" v

/-- The fields of an operation. -/
def Operation.setter : Setter Operation
  | "target" => some fun op v => return { op with target := ← Shape.text v }
  | "name" => some fun op v => return { op with name := ← Shape.textOrNull v }
  | "value" => some fun op v => return { op with amount := ← Amount.ofValue? v }
  | "calldata" => some fun op v => return { op with calldata := ← Shape.textOrNull v }
  | "selector" => some fun op v => return { op with selector := ← Shape.textOrNull v }
  | "abiFragment" => some fun op v => return { op with fragment := ← FragmentSource.ofValue? v }
  | "argsMapping" =>
    some fun op v => return { op with arguments := ← Shape.mapOrNull Shape.anything v }
  | _ => none

/-- Reads an operation. -/
def Operation.ofValue? : Value → Reading Operation := Shape.record true [] setter {}

/-- The fields of a batch. -/
def batchSetter : Setter (List Operation)
  | "operations" => some fun _ v => Shape.list Operation.ofValue? v
  | _ => none

/-- The fields of a condition. -/
def ConditionConfig.setter : Setter ConditionConfig
  | "expression" => some fun c v => .ok { c with expression := v }
  | "onTrue" => some fun c v => return { c with onTrue := ← Shape.textOrNull v }
  | "onFalse" => some fun c v => return { c with onFalse := ← Shape.textOrNull v }
  | _ => none

/-- The fields of a transformation. -/
def transformSetter : Setter Value
  | "expression" => some fun _ v => .ok v
  | _ => none

/-- The actions by kind, without their configuration. -/
def Action.choices : List (String × Action) :=
  [Action.http none, .onchain none, .onchainBatch none, .condition none, .transform none].map
    fun a => (a.kind, a)

/-- The name of the field that configures an action, and how it is read. -/
def Action.configure : Action → String × (Value → Reading Action)
  | .http _ => ("http", fun v => return .http (← Shape.orNull HttpConfig.ofValue? v))
  | .onchain _ => ("onchain", fun v => return .onchain (← Shape.orNull Operation.ofValue? v))
  | .onchainBatch _ =>
    ("onchain_batch",
      fun v => return .onchainBatch (← Shape.orNull (Shape.record true [] batchSetter []) v))
  | .condition _ =>
    ("condition",
      fun v =>
        return .condition (← Shape.orNull (Shape.record true [] ConditionConfig.setter {}) v))
  | .transform _ =>
    ("transform",
      fun v =>
        return .transform (← Shape.orNull (Shape.record true [] transformSetter .null) v))

/-- The fields of a step with the given action. -/
def Step.setter (action : Action) : Setter Step
  | "type" => some fun step _ => .ok step
  | "id" => some fun step v => return { step with id := ← Shape.text v }
  | "name" => some fun step v => return { step with name := ← Shape.text v }
  | "outputAs" => some fun step v => return { step with outputAs := ← Shape.text v }
  | "onError" =>
    some fun step v => return { step with onError := ← Shape.choice OnError.choices v }
  | "inputMapping" =>
    some fun step v => return { step with inputMapping := ← Shape.mapOrNull Shape.text v }
  | "requiresApproval" =>
    some fun step v => return { step with requiresApproval := ← Shape.boolOrNull v }
  | name =>
    let (own, configure) := action.configure
    if name = own then some fun step v => return { step with action := ← configure v } else none

/-- Reads the kind of a step, which decides how its other fields are read. -/
def Step.readKind (fields : List (String × Value)) : Reading Action :=
  match Fields.get? fields "type" with
  | none => Shape.fail (.missingField "type")
  | some (.text kind) =>
    match Action.choices.lookup kind with
    | some action => .ok action
    | none => Shape.within (.field "type") (Shape.fail (.unknownTag kind))
  | some v => Shape.within (.field "type") (Shape.fail (.expected "str" v.kindName))

/-- Reads a step. -/
def Step.ofValue? : Value → Reading Step
  | .record fields => do
    let action ← readKind fields
    Shape.record true [] (setter action) { action := action } (.record fields)
  | v => Shape.mismatch "object" v

/-- The fields of an allowed target. -/
def AllowedTarget.setter : Setter AllowedTarget
  | "address" => some fun t v => return { t with address := ← Shape.text v }
  | "name" => some fun t v => return { t with name := ← Shape.textOrNull v }
  | "description" => some fun t v => return { t with description := ← Shape.textOrNull v }
  | _ => none

/-- The fields of a scope. -/
def scopeSetter : Setter (List AllowedTarget)
  | "allowedDynamicTargets" =>
    some fun _ v => Shape.list (Shape.record true ["address"] AllowedTarget.setter {}) v
  | _ => none

/-- Reads a scope. -/
def scopeOfValue? : Value → Reading (List AllowedTarget) :=
  Shape.record true [] scopeSetter []

/-- The fields of a definition. -/
def Definition.setter : Setter Definition
  | "version" => some fun d v => return { d with version := ← Shape.text v }
  | "steps" => some fun d v => return { d with steps := ← Shape.list Step.ofValue? v }
  | "outputMapping" =>
    some fun d v => return { d with outputMapping := ← Shape.map Shape.anything v }
  | "scopeConfig" =>
    some fun d v => return { d with scope := ← Shape.orNull scopeOfValue? v }
  | _ => none

/-- Reads a definition. -/
def Definition.ofValue? : Value → Reading Definition := Shape.record true [] setter {}

/-! ### Writing -/

/-- A text, or nothing. -/
def optionalText : Option String → Value
  | some s => .text s
  | none => .null

/-- Named values, or nothing. -/
def optionalRecord : Option (List (String × Value)) → Value
  | some fields => .record fields
  | none => .null

/-- The wire form of a request. -/
def HttpConfig.toValue (c : HttpConfig) : Value :=
  .record [("proxyId", optionalText c.proxyId), ("url", optionalText c.url),
    ("method", optionalText (c.method.map Method.name)), ("headers", optionalRecord c.headers),
    ("bodyMapping", c.body)]

/-- The wire form of an operation. -/
def Operation.toValue (op : Operation) : Value :=
  .record [("target", .text op.target), ("name", optionalText op.name),
    ("value", (op.amount.map Amount.toValue).getD .null), ("calldata", optionalText op.calldata),
    ("selector", optionalText op.selector),
    ("abiFragment", (op.fragment.map FragmentSource.toValue).getD .null),
    ("argsMapping", optionalRecord op.arguments)]

/-- The wire form of a condition. -/
def ConditionConfig.toValue (c : ConditionConfig) : Value :=
  .record [("expression", c.expression), ("onTrue", optionalText c.onTrue),
    ("onFalse", optionalText c.onFalse)]

/-- The wire form of an action's configuration. -/
def Action.configValue : Action → Value
  | .http c => (c.map HttpConfig.toValue).getD .null
  | .onchain op => (op.map Operation.toValue).getD .null
  | .onchainBatch (some ops) => .record [("operations", .list (ops.map Operation.toValue))]
  | .onchainBatch none => .null
  | .condition c => (c.map ConditionConfig.toValue).getD .null
  | .transform (some e) => .record [("expression", e)]
  | .transform none => .null

/-- The wire form of a step. -/
def Step.toValue (step : Step) : Value :=
  .record [("type", .text step.action.kind), ("id", .text step.id), ("name", .text step.name),
    ("outputAs", .text step.outputAs), ("onError", .text step.onError.name),
    ("inputMapping",
      optionalRecord (step.inputMapping.map fun fs => fs.map fun (n, s) => (n, .text s))),
    ("requiresApproval", (step.requiresApproval.map Value.bool).getD .null),
    (step.action.configure.1, step.action.configValue)]

/-- The wire form of an allowed target. -/
def AllowedTarget.toValue (t : AllowedTarget) : Value :=
  .record [("address", .text t.address), ("name", optionalText t.name),
    ("description", optionalText t.description)]

/-- The wire form of a scope. -/
def scopeValue : Option (List AllowedTarget) → Value
  | some targets => .record [("allowedDynamicTargets", .list (targets.map AllowedTarget.toValue))]
  | none => .null

/-- The wire form of a definition. -/
def Definition.toValue (d : Definition) : Value :=
  .record [("version", .text d.version), ("steps", .list (d.steps.map Step.toValue)),
    ("outputMapping", .record d.outputMapping), ("scopeConfig", scopeValue d.scope)]

end Workflow
