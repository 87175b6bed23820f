import Workflow.Call.Single
import Workflow.Text.Case

/-!
# Batch payloads

The payload of several calls is the ABI encoding of an array of triples of address, amount and call
data.  Decoding checks all offsets of the array before it reads the first triple.
-/

namespace Workflow

/-- The type of a batch. -/
def batchType : String := "(address,uint256,bytes)[]"

/-! ### Encoding -/

/-- A call target in lower case. -/
def lowerTarget : Value → Except Failure Value
  | .text s => .ok (.text (Text.lower s))
  | .bytes bs =>
    .ok (.bytes (bs.map Text.lowerByte))
  | v => .error (.fault (.noMember v.kindName "lower"))

/-- A call as a triple. -/
def UncheckedCall.row (call : UncheckedCall) : Except Failure Value := do
  let target ← lowerTarget call.target
  let amount ← unsignedWord "value" call.amount
  let data ← hexBytes "calldata" call.data
  return .tuple [target, .int amount, .bytes data]

/-- The payload of several calls. -/
def packBatch (calls : List UncheckedCall) : Except Failure String := do
  let rows ← calls.mapM UncheckedCall.row
  match Abi.encode [batchType] [.list rows] with
  | .ok bs => return Hex.ofBytes bs
  | .error e => .error (.coding (.batchRefused e))

/-! ### Decoding -/

/-- The number of entries of a triple. -/
def rowEntries : Nat := 3

/-- The call in the triple at a position: the triple is read through once before its parts are
taken. -/
def rowAt (payload : List UInt8) (position : Nat) : Except Abi.DecodeError Call := do
  let target ← Abi.addressAt payload position
  let amount ← Abi.numberAt payload (position + 32)
  let dataPosition ← Abi.offsetAt payload .tuple position rowEntries (position + 64)
  let data ← Abi.bytesAt payload dataPosition
  return ⟨Hex.ofBytes target, amount, Hex.ofBytes data⟩

/-- The calls in a payload of bytes. -/
def batchCalls (payload : List UInt8) : Except Abi.DecodeError (List Call) := do
  let start ← Abi.offsetAt payload .tuple 0 1 0
  let count ← Abi.numberAt payload start
  let positions ← Abi.offsetsAt payload (start + 32) count (start + 32) count
  positions.mapM (rowAt payload)

/-- The failure of a payload that cannot be decoded; an impossible length is a fault. -/
def decodingFailure : Abi.DecodeError → Failure
  | .lengthTooLarge => .fault (.decoding .lengthTooLarge)
  | e => .coding (.batchUnreadable e)

/-- The calls in a payload. -/
def unpackBatch (payload : Value) : Except Failure (List Call) := do
  (batchCalls (← hexBytes payloadLabel payload)).mapError decodingFailure

end Workflow
