import Workflow.Abi.Encoding

/-!
# Strict ABI decoding

Reading words, offsets and byte strings at positions of a payload.  Decoding is strict: a word
must be there as a whole, an offset must lead behind the first part that it stands in and into the
payload, and the bytes that fill up a part must be zero.
-/

namespace Workflow.Abi

/-- What an offset stands in. -/
inductive Frame where
  | tuple
  | array
  deriving DecidableEq, Repr

/-- Why a payload cannot be decoded. -/
inductive DecodeError where
  /-- A word is cut off after some bytes. -/
  | shortWord (got : Nat)
  /-- A byte string is cut off. -/
  | shortBytes (wanted got : Nat)
  /-- The offset at a position of the payload leads nowhere. -/
  | badOffset (frame : Frame) (location : Nat)
  /-- The bytes that fill up a part are not zero. -/
  | dirtyPadding (padding : List UInt8)
  /-- A byte string is longer than any payload can be. -/
  | lengthTooLarge
  deriving DecidableEq, Repr

/-- The name of a frame. -/
def Frame.name : Frame → String
  | .tuple => "tuple"
  | .array => "array"

/-- The wording of an error. -/
def DecodeError.message : DecodeError → String
  | .shortWord got => "Tried to read 32 bytes, only got " ++ toString got ++ " bytes."
  | .shortBytes wanted got =>
    "Tried to read " ++ toString wanted ++ " bytes, only got " ++ toString got ++ " bytes"
  | .badOffset frame location =>
    "Invalid pointer in " ++ frame.name ++ " at location " ++ toString location ++ " in payload"
  | .dirtyPadding padding => "Padding bytes were not empty: " ++ Quoted.bytes padding
  | .lengthTooLarge => "cannot fit 'int' into an index-sized integer"

/-- The number that bytes denote, most significant byte first. -/
def bigEndianValue (bs : List UInt8) : Nat := bs.foldl (fun n b => 256 * n + b.toNat) 0

/-- The word at a position. -/
def wordAt (payload : List UInt8) (position : Nat) : Except DecodeError (List UInt8) :=
  let bs := (payload.drop position).take 32
  if bs.length = 32 then .ok bs else .error (.shortWord bs.length)

/-- The number at a position. -/
def numberAt (payload : List UInt8) (position : Nat) : Except DecodeError Nat :=
  (wordAt payload position).map bigEndianValue

/-- Refuses bytes that are not all zero. -/
def checkPadding (padding : List UInt8) : Except DecodeError Unit :=
  if padding.all (· == 0) then .ok () else .error (.dirtyPadding padding)

/-- The twenty bytes of the address at a position. -/
def addressAt (payload : List UInt8) (position : Nat) : Except DecodeError (List UInt8) := do
  let bs ← wordAt payload position
  checkPadding (bs.take 12)
  return bs.drop 12

/-- The least number of bytes that no payload has. -/
def payloadLimit : Nat := Nat.pow 2 63

/-- The byte string at a position: its length and then its bytes, filled up to whole words. -/
def bytesAt (payload : List UInt8) (position : Nat) : Except DecodeError (List UInt8) := do
  let length ← numberAt payload position
  let wanted := ceil32 length
  let bs := (payload.drop (position + 32)).take wanted
  if bs.length < wanted then
    .error (if payloadLimit ≤ wanted then .lengthTooLarge else .shortBytes wanted bs.length)
  else
    checkPadding (bs.drop length)
    return bs.take length

/-- The position to which the offset at `location` leads; offsets count from `start`, where a
first part of `entries` words begins. -/
def offsetAt (payload : List UInt8) (frame : Frame) (start entries location : Nat) :
    Except DecodeError Nat := do
  let offset ← numberAt payload location
  let position := start + offset
  if position < start + 32 * entries ∨ payload.length ≤ position then
    .error (.badOffset frame location)
  else .ok position

/-- The positions to which `count` offsets in a row lead, the first of them at `location`. -/
def offsetsAt (payload : List UInt8) (start entries location : Nat) :
    Nat → Except DecodeError (List Nat)
  | 0 => .ok []
  | count + 1 => do
    let position ← offsetAt payload .array start entries location
    let positions ← offsetsAt payload start entries (location + 32) count
    return position :: positions

end Workflow.Abi
