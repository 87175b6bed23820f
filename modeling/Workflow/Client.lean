import Workflow.Definition.Loading
import Workflow.Engine
import Workflow.Input.Binding
import Workflow.Step.Handler

/-!
# The client

The client loads a definition, binds the caller's input to the declared variables, and runs the
definition with the outside services.
-/

namespace Workflow

/-- A client: its services, its options, and how its HTTP steps send their requests. -/
structure Client (σ : Type) where
  /-- The outside services. -/
  services : Services σ
  /-- The options of its runs. -/
  options : Options
  /-- Whether HTTP steps share one client. -/
  sharesHttpClient : Bool

namespace Client

variable {σ : Type}

/-- How HTTP steps send their requests. -/
def channel (client : Client σ) : Http.Channel :=
  if client.sharesHttpClient then .shared else .single client.options.httpTimeout

/-- One attempt at a step with the default handlers. -/
def attempt [Json.Nesting] (client : Client σ) (step : Step) (c : Context) : Act σ Value :=
  step.perform client.services client.channel c

/-- Runs a definition without checking it. -/
def runUnchecked [Json.Nesting] (client : Client σ) (d : Definition) (now : Value)
    (params : RunParams) (s : σ) : Execution σ :=
  d.run client.attempt client.options now params s

/-- The parameters of a run with their input bound to declared variables, if there are any. -/
def bindParams (params : RunParams) : Option Value → Except Failure RunParams
  | none => .ok params
  | some v => do
    let declared ← (Variable.listOfValue? v).mapError fun m => .fault (.shape m)
    let input ← bindInputs declared params.input
    return { params with input := input.toValue }

/-- Checks a value that should be a definition. -/
def validate (client : Client σ) (v : Value) : Report :=
  checkValue v client.options.supportedVersion

/-- What a run needs before its first step. -/
def prepare [Json.Nesting] (client : Client σ) (source : Value) (params : RunParams)
    (declared : Option Value) : Except Failure (Definition × RunParams) := do
  let d ← Definition.load source client.options.supportedVersion
  let bound ← bindParams params declared
  return (d, bound)

/-- Loads a definition and runs it. -/
def run [Json.Nesting] (client : Client σ) (source : Value) (now : Value) (params : RunParams)
    (declared : Option Value) (s : σ) : Execution σ :=
  match client.prepare source params declared with
  | .error e => ⟨.error e, [], [], s⟩
  | .ok (d, bound) => client.runUnchecked d now bound s

end Client

end Workflow
