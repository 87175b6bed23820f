import Workflow.Call.Batch
import Workflow.Hash.Keccak
import Workflow.Service.Proxy

/-!
# Services in memory

Services for tests and dry runs: endpoints in a map, headers stored in plain form, and transactions
that are only recorded.  A transaction is answered with the hash of its payload.  If the allowed
targets are restricted, a payload with a call to any other target is turned away and not recorded.
-/

namespace Workflow

/-- The state of services in memory. -/
structure InMemory where
  /-- The stored endpoints by id. -/
  proxies : List (String × StoredProxy) := []
  /-- The allowed call targets in lower case, if they are restricted. -/
  allowedTargets : Option (List String) := none
  /-- The recorded transactions, oldest first. -/
  transactions : List TransactionRequest := []

namespace InMemory

/-- The call targets in a value in lower case; nothing restricts nothing. -/
def targetsIn : Value → Except Failure (Option (List String))
  | .null => .ok none
  | v =>
    match v.elements? with
    | none => .error (.fault (.notIterable v.kindName))
    | some targets => (targets.mapM lowerTarget).map fun ts => some (ts.filterMap Value.text?)

/-- Services with the given endpoints and allowed targets, targets in any case. -/
def create (proxies : List (String × StoredProxy)) (allowedTargets : Value) :
    Except Failure InMemory :=
  (targetsIn allowedTargets).map fun targets => { proxies, allowedTargets := targets }

/-- Stores an endpoint under an id. -/
def addProxy (m : InMemory) (id : String) (proxy : StoredProxy) : InMemory :=
  { m with proxies := Fields.put m.proxies id proxy }

/-- What is stored under an id. -/
def findProxy (id : String) (m : InMemory) : Option StoredProxy := Fields.get? m.proxies id

end InMemory

/-- Whether a mode says that a payload holds several calls. -/
def isBatchMode : Value → Bool
  | .text mode => mode == batchMode
  | _ => false

/-- The calls in the payload of a transaction. -/
def TransactionRequest.calls (request : TransactionRequest) : Except Failure (List Call) :=
  if isBatchMode request.mode then unpackBatch request.executionData
  else (Call.unpack request.executionData).map fun call => [call]

/-- The hash of a payload, which is a text. -/
def payloadHash : Value → Except Failure String
  | .text s => (bytesOfHex s).map fun bs => Hex.ofBytes (Keccak.hash bs)
  | .bytes bs => .error (.fault (.bytesForHex bs))
  | v => .error (.fault (.notSearchable v.kindName))

namespace InMemory

/-- The first target among calls that is not allowed. -/
def forbiddenTarget? (m : InMemory) (calls : List Call) : Option String :=
  match m.allowedTargets with
  | none => none
  | some allowed =>
    (calls.find? fun call => !allowed.contains (Text.lower call.target)).map (·.target)

/-- Records a transaction and answers it with the hash of its payload. -/
def execute (request : TransactionRequest) : Act InMemory Value := fun m =>
  match request.calls with
  | .error e => (.error e, m)
  | .ok calls =>
    match m.forbiddenTarget? calls with
    | some target => (.error (.fault (.targetNotAllowed target)), m)
    | none =>
      ((payloadHash request.executionData).map fun txHash => .receipt (.text txHash),
        { m with transactions := m.transactions ++ [request] })

/-- Services in memory beside a client that sends HTTP requests and has a world of its own. -/
def services [Json.Nesting] {τ : Type} (send : Http.Request → Act τ Http.Response) :
    Services (InMemory × τ) where
  findProxy id s := (.ok (findProxy id s.1), s)
  revealHeaders stored := Act.done (plainHeaders stored)
  send request s :=
    let (outcome, t) := send request s.2
    (outcome, s.1, t)
  submit request s :=
    let (outcome, m) := execute request s.1
    (outcome, m, s.2)

end InMemory

end Workflow
