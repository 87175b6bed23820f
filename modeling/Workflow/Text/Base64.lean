/-!
# Base64

Byte strings as text: three bytes become four characters, and a rest of one or two bytes is padded
with `=`.
-/

namespace Workflow.Base64

/-- The character of a value below sixty-four. -/
def symbol (n : Nat) : Char :=
  Char.ofNat <|
    if n < 26 then 0x41 + n
    else if n < 52 then 0x61 + (n - 26)
    else if n < 62 then 0x30 + (n - 52)
    else if n = 62 then 0x2B
    else 0x2F

/-- The characters of a byte string. -/
def symbols : List UInt8 → List Char
  | [] => []
  | [a] =>
    let n := a.toNat * 0x10000
    [symbol (n / 0x40000), symbol (n / 0x1000 % 64), '=', '=']
  | [a, b] =>
    let n := a.toNat * 0x10000 + b.toNat * 0x100
    [symbol (n / 0x40000), symbol (n / 0x1000 % 64), symbol (n / 0x40 % 64), '=']
  | a :: b :: c :: rest =>
    let n := a.toNat * 0x10000 + b.toNat * 0x100 + c.toNat
    symbol (n / 0x40000) :: symbol (n / 0x1000 % 64) :: symbol (n / 0x40 % 64) :: symbol (n % 64)
      :: symbols rest

/-- The text of a byte string. -/
def encode (bytes : List UInt8) : String := String.ofList (symbols bytes)

end Workflow.Base64
