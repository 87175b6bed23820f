import Workflow.Http.Message

/-!
# Outside services

What a run reaches outside of itself: stored endpoints, an HTTP client and a service that submits
transactions.  Every call, a lookup included, may change the outside world, of which only the type
`σ` is fixed here, and has an outcome; a call that fails may have changed the world as well.
-/

namespace Workflow

/-- A call with an effect on the outside world and an outcome. -/
abbrev Act (σ α : Type) := σ → Except Failure α × σ

namespace Act

variable {σ α β : Type}

/-- No effect, and the given outcome. -/
def done (outcome : Except Failure α) : Act σ α := fun s => (outcome, s)

/-- One act and, with what it gives, another one; a failure ends both. -/
def andThen (first : Act σ α) (next : α → Act σ β) : Act σ β := fun s =>
  match first s with
  | (.ok a, s') => next a s'
  | (.error e, s') => (.error e, s')

/-- An act with its outcome made into another one. -/
def mapOutcome (act : Act σ α) (f : Except Failure α → Except Failure β) : Act σ β := fun s =>
  (f (act s).1, (act s).2)

end Act

/-- A stored endpoint. -/
structure ProxyRecord where
  /-- The URL. -/
  targetUrl : Value
  /-- The method. -/
  httpMethod : Value := .text "GET"
  /-- The headers, in the form in which they are stored. -/
  encryptedHeaders : Value := .null

/-- What is stored under the id of an endpoint. -/
inductive StoredProxy where
  /-- An endpoint. -/
  | record (proxy : ProxyRecord)
  /-- Some value that should describe an endpoint. -/
  | raw (v : Value)

/-- A transaction as handed to the service that submits it. -/
structure TransactionRequest where
  /-- The session under which it is submitted. -/
  sessionId : Value
  /-- The form of the payload. -/
  mode : Value
  /-- The payload. -/
  executionData : Value

/-- The kind of receipts. -/
def receiptKind : StructKind :=
  ⟨"TransactionReceipt", "chainflow.domain.port.TransactionReceipt"⟩

/-- The receipt of a submitted transaction with its hash, which should be a text. -/
def Value.receipt (txHash : Value) : Value :=
  .struct receiptKind [("tx_hash", txHash)] (.record [("txHash", txHash)])

/-- The outside services. -/
structure Services (σ : Type) where
  /-- What is stored under the id of an endpoint, if anything. -/
  findProxy : String → Act σ (Option StoredProxy)
  /-- The headers of an endpoint in plain form. -/
  revealHeaders : Value → Act σ (List (String × String))
  /-- Sends an HTTP request. -/
  send : Http.Request → Act σ Http.Response
  /-- Submits a transaction; the result should be a receipt. -/
  submit : TransactionRequest → Act σ Value

/-- The mode of a payload with one call. -/
def singleMode : String := "0x" ++ String.ofList (List.replicate 64 '0')

/-- The mode of a payload with several calls. -/
def batchMode : String := "0x01" ++ String.ofList (List.replicate 62 '0')

end Workflow
