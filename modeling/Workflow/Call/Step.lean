import Workflow.Call.Batch
import Workflow.Call.Operation
import Workflow.Service.Submission

/-!
# On-chain steps

A step with one operation submits a payload with that call, a step with several a payload with all
of them in order.  The payload is complete before anything is submitted.  The output is the hash of
the transaction.
-/

namespace Workflow

/-- Calls with the operations that they come from. -/
def nameCalls (calls : List Call) (operations : List Operation) : List NamedCall :=
  List.zipWith (fun call op => ⟨.text call.target, .text op.label⟩) calls operations

/-- The output of an on-chain step. -/
def transactionOutput (txHash : Value) : Value := .record [("txHash", txHash)]

/-- A transaction together with its calls. -/
structure Prepared where
  /-- The transaction. -/
  request : TransactionRequest
  /-- The calls, as a denial names them. -/
  calls : List NamedCall

section

variable [Json.Nesting]

/-- The transaction of one operation. -/
def prepareSingle (op : Operation) (c : Context) : Except Failure Prepared := do
  let call ← op.toCall c
  let payload ← call.unchecked.pack
  return ⟨⟨c.params.sessionId, .text singleMode, .text payload⟩, nameCalls [call] [op]⟩

/-- The transaction of several operations. -/
def prepareBatch (ops : List Operation) (c : Context) : Except Failure Prepared := do
  let calls ← ops.mapM (·.toCall c)
  let payload ← packBatch (calls.map Call.unchecked)
  return ⟨⟨c.params.sessionId, .text batchMode, .text payload⟩, nameCalls calls ops⟩

/-- The transaction of a step with one operation. -/
def prepareOnchain (id : String) (op : Option Operation) (c : Context) :
    Except Failure Prepared :=
  match op with
  | none => .error (.misconfigured (.breach (.onchainMissing id)))
  | some op => prepareSingle op c

/-- The transaction of a step with several operations. -/
def prepareOnchainBatch (id : String) (ops : Option (List Operation)) (c : Context) :
    Except Failure Prepared :=
  match ops with
  | none => .error (.misconfigured (.breach (.batchEmpty id)))
  | some [] => .error (.misconfigured (.breach (.batchEmpty id)))
  | some ops => prepareBatch ops c

end

/-- Submits a transaction once it is prepared. -/
def submitPrepared {σ : Type} (services : Services σ) (prepared : Except Failure Prepared) :
    Act σ Value :=
  (Act.done prepared).andThen fun p =>
    (submitTransaction services p.request p.calls).mapOutcome (Except.map transactionOutput)

end Workflow
