import Workflow.Charset.Front
import Workflow.Text.Utf8

/-!
# Unicode in units of one, two and four bytes

A text in units of two or four bytes starts with a byte-order mark unless the order is fixed.  A
mark in front of units of one byte is dropped.
-/

namespace Workflow.Charset

/-- The order of the bytes of a unit. -/
inductive ByteOrder where
  /-- The least byte comes first. -/
  | little
  /-- The greatest byte comes first. -/
  | big
  deriving DecidableEq, Repr

/-- The number that bytes denote. -/
def ByteOrder.value (order : ByteOrder) (bytes : List UInt8) : Nat :=
  let ordered := match order with
    | .little => bytes.reverse
    | .big => bytes
  ordered.foldl (fun n b => 256 * n + b.toNat) 0

/-- The character of a code point, unless it is a surrogate or too large. -/
def charOf? (n : Nat) : Option Char :=
  if n < 0xD800 ∨ (0xDFFF < n ∧ n < 0x110000) then some (Char.ofNat n) else none

/-! ### Two bytes -/

/-- Whether a unit is the first half of a character. -/
def isFirstHalf (n : Nat) : Bool := 0xD800 ≤ n && n < 0xDC00

/-- Whether a unit is the second half of a character. -/
def isSecondHalf (n : Nat) : Bool := 0xDC00 ≤ n && n < 0xE000

/-- The character of two halves. -/
def joined (first second : Nat) : Char :=
  Char.ofNat (0x10000 + (first - 0xD800) * 1024 + (second - 0xDC00))

/-- What stands at the front of units of two bytes. -/
def unitFront (order : ByteOrder) : List UInt8 → Front
  | a :: b :: rest =>
    let first := order.value [a, b]
    if isFirstHalf first then
      match rest with
      | c :: d :: _ =>
        let second := order.value [c, d]
        if isSecondHalf second then .char (joined first second) 4 else .flawed 2
      | _ => .short
    else match charOf? first with
      | some c => .char c 2
      | none => .flawed 2
  | _ => .short

/-- Decodes units of two bytes. -/
def decodePairs (order : ByteOrder) : List UInt8 → Except Error Places :=
  decodeEach (unitFront order)

/-- Decodes units of two bytes behind a byte-order mark. -/
def decodeMarkedPairs : List UInt8 → Except Error Places
  | 0xFF :: 0xFE :: rest => decodePairs .little rest
  | 0xFE :: 0xFF :: rest => decodePairs .big rest
  | _ :: _ :: _ => .error (.noMark 16)
  | bytes => decodePairs .little bytes

/-! ### Four bytes -/

/-- What stands at the front of units of four bytes. -/
def quadFront (order : ByteOrder) : List UInt8 → Front
  | a :: b :: c :: d :: _ =>
    match charOf? (order.value [a, b, c, d]) with
    | some c => .char c 4
    | none => .flawed 4
  | _ => .short

/-- Decodes units of four bytes. -/
def decodeQuads (order : ByteOrder) : List UInt8 → Except Error Places :=
  decodeEach (quadFront order)

/-- Decodes units of four bytes behind a byte-order mark. -/
def decodeMarkedQuads : List UInt8 → Except Error Places
  | 0xFF :: 0xFE :: 0 :: 0 :: rest => decodeQuads .little rest
  | 0 :: 0 :: 0xFE :: 0xFF :: rest => decodeQuads .big rest
  | _ :: _ :: _ :: _ :: _ => .error (.noMark 32)
  | bytes => decodeQuads .little bytes

/-! ### One byte -/

/-- Decodes units of one byte behind a mark, which may be broken off where nothing follows. -/
def decodeSigned : List UInt8 → Places
  | 0xEF :: 0xBB :: 0xBF :: rest => Utf8.decode rest
  | [0xEF, 0xBB] => []
  | [0xEF] => []
  | bytes => Utf8.decode bytes

end Workflow.Charset
