import Workflow.Failure.Stated
import Workflow.Service.Basic
import Workflow.Shape

/-!
# Submitting transactions

A submission that fails is judged by the text of its failure: where it says that a target is not
allowed, the failure becomes a denial that names all calls of the transaction, unless it names a
target already.  Other failures known to the rules pass through, and a fault becomes a rejected
transaction.  A failure whose text cannot be had, or names that are no texts, end the judgement with
a fault.  What comes back from a submission must be a receipt.
-/

namespace Workflow

/-- The texts by which sessions report that a target is not allowed. -/
def denialSignals : List String := ["TARGET_NOT_ALLOWED", "0xe356c1d3", "Target not allowed"]

/-- Whether a text reports that a target is not allowed. -/
def signalsDenial (text : String) : Bool :=
  denialSignals.any fun signal => Text.holds signal.toList text.toList

/-- What a denial says of a call, where texts should be. -/
structure NamedCall where
  /-- The call target. -/
  target : Value
  /-- The label of the operation. -/
  operation : Value

/-- What a denial of some calls names. -/
def Denied.ofCalls (calls : List NamedCall) : Except Fault Denied := do
  let targets ← textsFrom 0 (calls.map (·.target))
  let operations ← textsFrom 0 (calls.map (·.operation))
  return ⟨targets, operations⟩

/-- The denial of some calls for a failure. -/
def denial (calls : List NamedCall) (failure : Failure) : Failure :=
  match Denied.ofCalls calls with
  | .ok what => .denied what failure
  | .error f => .fault f

/-- What a failed submission of some calls counts as. -/
def judgeSubmission (calls : List NamedCall) (failure : Failure) : Failure :=
  match failure.text with
  | .error wordless => wordless
  | .ok text =>
    if !failure.namesDenied && signalsDenial text then denial calls failure
    else match failure with
      | .fault f => .service (.rejected f)
      | e => e

/-- The fields of a receipt. -/
def receiptSetter : Shape.Setter String
  | "txHash" => some fun _ v => Shape.text v
  | _ => none

/-- The hash in a struct that is a receipt. -/
def hashOfStruct? : Value → Option Value
  | .struct kind fields _ => if kind = receiptKind then Fields.get? fields "tx_hash" else none
  | _ => none

/-- The hash in a receipt.  Where no receipt comes back, one is read from the fields of what does;
those that are not declared are ignored. -/
def receiptHash (v : Value) : Except Failure Value :=
  match hashOfStruct? v with
  | some txHash => .ok txHash
  | none =>
    match Shape.record false ["txHash"] receiptSetter "" v with
    | .ok txHash => .ok (.text txHash)
    | .error m => .error (.service (.malformedReceipt m))

/-- What the outcome of a submission of some calls counts as: the hash of the receipt, or a
failure. -/
def judgeOutcome (calls : List NamedCall) : Except Failure Value → Except Failure Value
  | .ok receipt => receiptHash receipt
  | .error e => .error (judgeSubmission calls e)

/-- Submits a transaction with the given calls, and reads the hash of its receipt. -/
def submitTransaction {σ : Type} (services : Services σ) (request : TransactionRequest)
    (calls : List NamedCall) : Act σ Value :=
  (services.submit request).mapOutcome (judgeOutcome calls)

end Workflow
