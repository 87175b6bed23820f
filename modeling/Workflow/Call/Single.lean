import Workflow.Address
import Workflow.Call.Basic
import Workflow.Word

/-!
# Single-call payloads

The payload of one call is its target (20 bytes), its amount (32 bytes, most significant first) and
its call data, one behind the other.
-/

namespace Workflow

/-- Checks a call target. -/
def checkTarget (v : Value) : Except Failure String :=
  match v with
  | .text s => if isAddress s then .ok s else .error (.coding (.badTarget v))
  | _ => .error (.fault (.notSearchable v.kindName))

/-- The payload of one call as bytes. -/
def UncheckedCall.packBytes (call : UncheckedCall) : Except Failure (List UInt8) := do
  let target ← checkTarget call.target
  let data ← hexBytes "calldata" call.data
  let targetBytes ← bytesOfHex target
  let amount ← unsignedWord "value" call.amount
  return targetBytes ++ Abi.word amount ++ data

/-- The payload of one call. -/
def UncheckedCall.pack (call : UncheckedCall) : Except Failure String :=
  call.packBytes.map Hex.ofBytes

/-- The number of bytes in front of the call data. -/
def singleHeadSize : Nat := 52

/-- The call in a payload of bytes. -/
def Call.unpackBytes (payload : List UInt8) : Except Failure Call :=
  if payload.length < singleHeadSize then .error (.coding (.payloadTooShort payload.length))
  else
    .ok ⟨Hex.ofBytes (payload.take 20), Abi.bigEndianValue ((payload.drop 20).take 32),
      Hex.ofBytes (payload.drop singleHeadSize)⟩

/-- What messages call a payload. -/
def payloadLabel : String := "execution data"

/-- The call in a payload. -/
def Call.unpack (payload : Value) : Except Failure Call := do
  Call.unpackBytes (← hexBytes payloadLabel payload)

end Workflow
