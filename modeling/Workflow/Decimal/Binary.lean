/-!
# Double-precision numbers in parts

A finite double is `± significand · 2 ^ exponent`.  `Binary.ofFloat` takes a double apart,
`floatOfRatio` rounds a quotient of natural numbers to the nearest double, a tie to the even
significand.
-/

namespace Workflow.Decimal

/-- A double-precision number in parts. -/
inductive Binary where
  | nan
  | infinite (negative : Bool)
  | finite (negative : Bool) (significand : Nat) (exponent : Int)
  deriving DecidableEq, Repr

/-- The parts of a double. -/
def Binary.ofFloat (x : Float) : Binary :=
  let bits := x.toBits.toNat
  let negative := bits / Nat.pow 2 63 == 1
  let biased : Nat := bits / Nat.pow 2 52 % 2048
  let fraction : Nat := bits % Nat.pow 2 52
  if biased = 2047 then if fraction = 0 then .infinite negative else .nan
  else if biased = 0 then .finite negative fraction (-1074)
  else .finite negative (fraction + Nat.pow 2 52) (biased - 1075)

/-- The numerator and the denominator of `n · 2 ^ e`. -/
def scaleByTwo (n : Nat) (e : Int) : Nat × Nat :=
  if 0 ≤ e then (n * Nat.pow 2 e.toNat, 1) else (n, Nat.pow 2 (-e).toNat)

/-- The integer that a double is, or `none` where it has a fraction or is not finite. -/
def Binary.toInt? : Binary → Option Int
  | .finite negative significand exponent =>
    let (num, den) := scaleByTwo significand exponent
    if num % den = 0 then some (if negative then -(num / den : Nat) else (num / den : Nat))
    else none
  | _ => none

/-- The quotient rounded to the nearest integer, a tie to the even one. -/
def roundDiv (num den : Nat) : Nat :=
  let q := num / den
  let r := num % den
  if 2 * r < den then q else if den < 2 * r then q + 1 else q + q % 2

/-- The least exponent of a double. -/
def leastExponent : Int := -1074

/-- The exponent `e` for which `num / den` lies in `[2 ^ 52, 2 ^ 53) · 2 ^ e`, at least
`leastExponent`. -/
def binaryExponent (num den : Nat) : Int :=
  let guess : Int := (Nat.log2 num : Int) - Nat.log2 den - 53
  let (n, d) := scaleByTwo 1 guess
  let e := if num * d < den * n * Nat.pow 2 53 then guess else guess + 1
  max leastExponent e

/-- The bits of the nearest double that is not negative. -/
def bitsOfRatio (num den : Nat) : Nat :=
  if num = 0 then 0
  else
    let e := binaryExponent num den
    let (n, d) := scaleByTwo 1 e
    let significand := roundDiv (num * d) (den * n)
    let bits := if significand < Nat.pow 2 52 then significand
      else (e + 1075).toNat * Nat.pow 2 52 + (significand - Nat.pow 2 52)
    min bits (2047 * Nat.pow 2 52)

/-- The double nearest to a quotient; beyond the greatest double it is infinite. -/
def floatOfRatio (negative : Bool) (num den : Nat) : Float :=
  Float.ofBits (UInt64.ofNat (bitsOfRatio num den + if negative then Nat.pow 2 63 else 0))

/-- The infinite double of either sign. -/
def infinity (negative : Bool) : Float :=
  Float.ofBits (UInt64.ofNat (2047 * Nat.pow 2 52 + if negative then Nat.pow 2 63 else 0))

/-- The double that is not a number. -/
def notANumber : Float := Float.ofBits 0x7FF8000000000000

end Workflow.Decimal
