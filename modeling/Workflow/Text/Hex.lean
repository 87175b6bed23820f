/-!
# Hexadecimal text

Byte strings written as two hexadecimal digits per byte, in lower case behind the mark `0x`.
Reading takes digits of either case and any number of bytes; the two ways a text can be refused
are an odd number of characters and a character that is no digit, in this order.
-/

namespace Workflow.Hex

/-- Why a text denotes no bytes. -/
inductive Error where
  | oddLength
  | notADigit
  deriving DecidableEq, Repr

/-- The wording of a refusal. -/
def Error.message : Error → String
  | .oddLength => "Odd-length string"
  | .notADigit => "Non-hexadecimal digit found"

/-- The value of a hexadecimal digit of either case. -/
def digitValue? (c : Char) : Option Nat :=
  if '0' ≤ c ∧ c ≤ '9' then some (c.toNat - 0x30)
  else if 'a' ≤ c ∧ c ≤ 'f' then some (c.toNat - 0x57)
  else if 'A' ≤ c ∧ c ≤ 'F' then some (c.toNat - 0x37)
  else none

/-- Whether a character is a hexadecimal digit. -/
def isDigit (c : Char) : Bool := (digitValue? c).isSome

/-- The lower-case digit of a value below sixteen. -/
def digit (n : Nat) : Char := Char.ofNat (if n < 10 then 0x30 + n else 0x57 + n)

/-- The two digits of a byte, high half first. -/
def byteDigits (b : UInt8) : List Char := [digit (b.toNat / 16), digit (b.toNat % 16)]

/-- The digits of a byte string. -/
def encode (bytes : List UInt8) : List Char := bytes.flatMap byteDigits

/-- The bytes of a digit sequence, read pair by pair. -/
def pairs : List Char → Except Error (List UInt8)
  | [] => .ok []
  | [_] => .error .oddLength
  | high :: low :: rest =>
    match digitValue? high, digitValue? low with
    | some h, some l => (pairs rest).map (UInt8.ofNat (16 * h + l) :: ·)
    | _, _ => .error .notADigit

/-- The bytes of a digit sequence; a wrong length is reported before a wrong character. -/
def decode (cs : List Char) : Except Error (List UInt8) :=
  if cs.length % 2 = 1 then .error .oddLength else pairs cs

/-- Whether a text starts with the mark `0x`, in either case. -/
def isMarked : List Char → Bool
  | '0' :: x :: _ => x == 'x' || x == 'X'
  | _ => false

/-- The digits behind the mark, if there is one. -/
def unmarked (cs : List Char) : List Char := if isMarked cs then cs.drop 2 else cs

/-- The marked lower-case text of a byte string. -/
def ofBytes (bytes : List UInt8) : String := String.ofList ('0' :: 'x' :: encode bytes)

/-- The bytes of a text with or without the mark. -/
def toBytes (s : String) : Except Error (List UInt8) := decode (unmarked s.toList)

/-- A text less one line break at its very end. -/
def dropFinalNewline (cs : List Char) : List Char :=
  if cs.getLast? = some '\n' then cs.dropLast else cs

/-- Whether a text is the mark followed by digit pairs; one final line break is allowed. -/
def isMarkedPairs (cs : List Char) : Bool :=
  let body := dropFinalNewline cs
  isMarked body && body.length % 2 == 0 && (body.drop 2).all isDigit

end Workflow.Hex
