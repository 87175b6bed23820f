import Workflow.Failure.Basic

/-!
# Hexadecimal data and words from loosely typed values

Call data may be given as bytes or as hexadecimal text with or without its mark, and an integer as
a number or as text.  A `label` names the value in messages.
-/

namespace Workflow

/-- The marked hexadecimal text of a value; digits keep their case, and one final line break is let
through. -/
def hexText (label : String) (v : Value) : Except Failure String :=
  match v with
  | .bytes bs => .ok (Hex.ofBytes bs)
  | .text s =>
    let marked := '0' :: 'x' :: Hex.unmarked s.toList
    if Hex.isMarkedPairs marked then .ok (String.ofList marked)
    else .error (.coding (.notHex label v))
  | _ => .error (.showing v (.coding (.notHex label v)))

/-- The bytes of a hexadecimal text. -/
def bytesOfHex (s : String) : Except Failure (List UInt8) :=
  (Hex.toBytes s).mapError fun e => .fault (.hex e)

/-- The bytes that a value denotes. -/
def hexBytes (label : String) (v : Value) : Except Failure (List UInt8) := do
  bytesOfHex (← hexText label v)

/-- The integer that a text denotes: a decimal numeral, or a hexadecimal one with its mark. -/
def integerOfText? (s : String) : Option Int :=
  let t := trimmed s
  let digits := match t.toList with
    | '-' :: rest => rest
    | cs => cs
  if Hex.isMarked digits then Numeral.readHex t.toList
  else (Numeral.readInt t).toOption

/-- The integer that a value denotes. -/
def integer (label : String) (v : Value) : Except Failure Int :=
  match v with
  | .bool _ => .error (.coding (.truthForInteger label))
  | .int n => .ok n
  | .float x =>
    match (Decimal.Binary.ofFloat x).toInt? with
    | some n => .ok n
    | none => .error (.coding (.notInteger label v))
  | .text s =>
    match integerOfText? s with
    | some n => .ok n
    | none => .error (.coding (.notInteger label v))
  | _ => .error (.showing v (.coding (.notInteger label v)))

/-- The unsigned word that a value denotes. -/
def unsignedWord (label : String) (v : Value) : Except Failure Nat := do
  let n ← integer label v
  if 0 ≤ n ∧ n < Nat.pow 2 256 then return n.toNat
  else .error (.showing v (.coding (.outOfRange label v)))

end Workflow
