import Workflow.Address
import Workflow.Definition.Shape

/-!
# Checking definitions

The structural rules of a definition, checked without running anything.  A check lists every
problem: those of the definition as a whole, those of each step in order, colliding output keys,
unknown branch labels, and malformed allowed targets.
-/

namespace Workflow

/-- The version of the definition format that is accepted unless another is asked for. -/
def supportedVersion : String := "1.0"

/-- A breach of a structural rule. -/
inductive Flaw where
  | unsupportedVersion (version : String)
  | noSteps
  | missingId
  | duplicateId (id : String)
  | missingOutputAs (id : String)
  | httpMissing (id : String)
  | httpNoEndpoint (id : String)
  | httpTwoEndpoints (id : String)
  | onchainMissing (id : String)
  | onchainNoTarget (id : String)
  | batchMissing (id : String)
  | batchEmpty (id : String)
  | batchNoTarget (id : String) (index : Nat)
  | conditionMissing (id : String)
  | transformMissing (id : String)
  | keyCollision (id key owner : String)
  | unknownBranch (id label : String)
  | malformedTarget (address : String)
  | malformed (m : Shape.Mismatch)
  deriving DecidableEq, Repr

/-- A name in double quotes. -/
def doubleQuoted (s : String) : String := "\"" ++ s ++ "\""

/-- The wording of a breach. -/
def Flaw.message : Flaw → String
  | .unsupportedVersion version => "Unsupported workflow version: " ++ version
  | .noSteps => "Workflow must have at least one step"
  | .missingId => "Step missing id"
  | .duplicateId id => "Duplicate step id: " ++ id
  | .missingOutputAs id => "Step " ++ doubleQuoted id ++ " missing outputAs"
  | .httpMissing id => "HTTP step " ++ doubleQuoted id ++ " missing http configuration"
  | .httpNoEndpoint id => "HTTP step " ++ doubleQuoted id ++ " must have either proxyId or url"
  | .httpTwoEndpoints id =>
    "HTTP step " ++ doubleQuoted id ++ " must not have both proxyId and url"
  | .onchainMissing id => "On-chain step " ++ doubleQuoted id ++ " missing onchain configuration"
  | .onchainNoTarget id => "On-chain step " ++ doubleQuoted id ++ " missing target"
  | .batchMissing id =>
    "On-chain batch step " ++ doubleQuoted id ++ " missing onchain_batch configuration"
  | .batchEmpty id =>
    "On-chain batch step " ++ doubleQuoted id ++ " must have at least one operation"
  | .batchNoTarget id index =>
    "On-chain batch step " ++ doubleQuoted id ++ " operation " ++ toString index
      ++ " missing target"
  | .conditionMissing id =>
    "Condition step " ++ doubleQuoted id ++ " missing condition expression"
  | .transformMissing id =>
    "Transform step " ++ doubleQuoted id ++ " missing transform expression"
  | .keyCollision id key owner =>
    "Step " ++ doubleQuoted id ++ " writes output key " ++ doubleQuoted key
      ++ " already used by step " ++ doubleQuoted owner
  | .unknownBranch id label =>
    "Condition step " ++ doubleQuoted id ++ " references unknown step " ++ doubleQuoted label
  | .malformedTarget address => "Invalid allowed dynamic target address: " ++ address
  | .malformed m => "Malformed workflow definition: " ++ m.message

/-! ### Rules of single steps -/

/-- Whether a value is left out: nothing or the empty text. -/
def isLeftOut : Value → Bool
  | .null => true
  | .text s => s.isEmpty
  | _ => false

/-- The breaches in a step's own configuration. -/
def Step.flaws (step : Step) : List Flaw :=
  match step.action with
  | .http none => [.httpMissing step.id]
  | .http (some c) =>
    match nonempty? c.proxyId, nonempty? c.url with
    | none, none => [.httpNoEndpoint step.id]
    | some _, some _ => [.httpTwoEndpoints step.id]
    | _, _ => []
  | .onchain none => [.onchainMissing step.id]
  | .onchain (some op) => if op.target.isEmpty then [.onchainNoTarget step.id] else []
  | .onchainBatch none => [.batchMissing step.id]
  | .onchainBatch (some []) => [.batchEmpty step.id]
  | .onchainBatch (some ops) =>
    ops.zipIdx.filterMap fun (op, index) =>
      if op.target.isEmpty then some (.batchNoTarget step.id index) else none
  | .condition none => [.conditionMissing step.id]
  | .condition (some c) => if isLeftOut c.expression then [.conditionMissing step.id] else []
  | .transform none => [.transformMissing step.id]
  | .transform (some e) => if isLeftOut e then [.transformMissing step.id] else []

/-- The breaches of a step among others; `seen` are the ids of the steps in front of it. -/
def Step.flawsAfter (seen : List String) (step : Step) : List Flaw :=
  let idFlaws :=
    if step.id.isEmpty then [Flaw.missingId]
    else if seen.contains step.id then [.duplicateId step.id]
    else []
  let outputFlaws := if step.outputAs.isEmpty then [Flaw.missingOutputAs step.id] else []
  idFlaws ++ outputFlaws ++ step.flaws

/-- The breaches of steps in order; `seen` are the ids in front of them. -/
def stepFlaws (seen : List String) : List Step → List Flaw
  | [] => []
  | step :: steps => step.flawsAfter seen ++ stepFlaws (seen ++ [step.id]) steps

/-! ### Rules of all steps together -/

/-- The keys under which a step records its output. -/
def Step.outputKeys (step : Step) : List String :=
  if step.outputAs.isEmpty || step.outputAs == step.id then [step.id]
  else [step.id, step.outputAs]

/-- Gives a step its keys; a key that another step owns is a breach. -/
def claimKeys (id : String) :
    List String → List (String × String) → List Flaw × List (String × String)
  | [], owners => ([], owners)
  | key :: keys, owners =>
    match owners.lookup key with
    | none => claimKeys id keys ((key, id) :: owners)
    | some owner =>
      let (flaws, owners') := claimKeys id keys owners
      (if owner == id then flaws else .keyCollision id key owner :: flaws, owners')

/-- The colliding keys of steps in order, given who owns which key in front of them. -/
def collisionFlaws (owners : List (String × String)) : List Step → List Flaw
  | [] => []
  | step :: steps =>
    if step.id.isEmpty then collisionFlaws owners steps
    else
      let (flaws, owners') := claimKeys step.id step.outputKeys owners
      flaws ++ collisionFlaws owners' steps

/-- The labels of a step that name no step. -/
def Step.branchFlaws (ids : List String) (step : Step) : List Flaw :=
  match step.action with
  | .condition (some c) =>
    [c.onTrue, c.onFalse].filterMap fun label =>
      (nonempty? label).bind fun l =>
        if ids.contains l then none else some (.unknownBranch step.id l)
  | _ => []

/-! ### The whole definition -/

/-- Whether an allowed target has a well-formed address. -/
def AllowedTarget.isWellFormed (t : AllowedTarget) : Bool := isAddress t.address

/-- The ids of a definition's steps, empty ones left out. -/
def Definition.stepIds (d : Definition) : List String :=
  (d.steps.map (·.id)).filter (!·.isEmpty)

/-- Every breach of a definition; `version` is the one version that is accepted. -/
def Definition.flaws (d : Definition) (version : Value) : List Flaw :=
  (if version.text? == some d.version then [] else [.unsupportedVersion d.version])
    ++ (if d.steps.isEmpty then [.noSteps] else [])
    ++ stepFlaws [] d.steps
    ++ collisionFlaws [] d.steps
    ++ d.steps.flatMap (·.branchFlaws d.stepIds)
    ++ ((d.scope.getD []).filter (!·.isWellFormed)).map fun t => .malformedTarget t.address

/-- The outcome of a check. -/
structure Report where
  /-- Whether nothing was found. -/
  valid : Bool
  /-- What was found. -/
  errors : List String

/-- The report that lists some breaches. -/
def Report.ofFlaws (flaws : List Flaw) : Report := ⟨flaws.isEmpty, flaws.map Flaw.message⟩

/-- Checks a definition. -/
def Definition.check (d : Definition) (version : Value) : Report :=
  .ofFlaws (d.flaws version)

/-- Checks a value that should be a definition; that it is none is the only finding then. -/
def checkValue (v version : Value) : Report :=
  match Definition.ofValue? v with
  | .ok d => d.check version
  | .error m => .ofFlaws [.malformed m]

end Workflow
