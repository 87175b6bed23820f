import Workflow.Decimal.Binary

/-!
# The shortest decimal of a double

Among the decimals that round to a given double, those with the fewest digits are taken, and of
these the one nearest to the double's own value.  The decimals that round to the double form an
interval around it, with its ends if the significand is even.  For every digit count the two
neighbours of the value on the grid of that count are tried.
-/

namespace Workflow.Decimal

/-- A positive decimal `0.d₁d₂… · 10 ^ point` in lowest terms. -/
structure Digits where
  /-- The digits, the first and the last of them not zero. -/
  digits : List Char
  /-- The number of digits in front of the decimal point. -/
  point : Int
  deriving DecidableEq, Repr

/-- The numerator and the denominator of `10 ^ e`. -/
def powerOfTen (e : Int) : Nat × Nat :=
  if 0 ≤ e then (Nat.pow 10 e.toNat, 1) else (1, Nat.pow 10 (-e).toNat)

/-- The decimal digits of a number. -/
def natDigits (n : Nat) : List Char := Nat.toDigits 10 n

/-- The decimal `c · 10 ^ e`, less trailing zeros. -/
def Digits.ofScaled (c : Nat) (e : Int) : Digits :=
  let cs := natDigits c
  ⟨(cs.reverse.dropWhile (· == '0')).reverse, e + cs.length⟩

/-- The least `e` with `num / den < 10 ^ e`. -/
def decimalPoint (num den : Nat) : Int :=
  let guess : Int := ((natDigits num).length : Int) - (natDigits den).length
  let (n, d) := powerOfTen guess
  if num * d < den * n then guess else guess + 1

/-- The distance between two numbers. -/
def distance (a b : Nat) : Nat := (a - b) + (b - a)

/-- The decimals that round to the double `significand · 2 ^ exponent`, as an interval around the
value; all three numbers are quarters of the significand's unit. -/
structure Interval where
  /-- The lower end. -/
  lower : Nat
  /-- The value itself. -/
  value : Nat
  /-- The upper end. -/
  upper : Nat
  /-- The common denominator. -/
  den : Nat
  /-- Whether the ends themselves round to the double. -/
  closed : Bool

/-- The interval of a positive double.  Below a power of two the next double is half as far away,
so the lower end is nearer. -/
def Interval.ofDouble (significand : Nat) (exponent : Int) : Interval :=
  let (unit, den) := scaleByTwo 1 (exponent - 2)
  let below := if significand = Nat.pow 2 52 ∧ leastExponent < exponent then 1 else 2
  ⟨(4 * significand - below) * unit, 4 * significand * unit, (4 * significand + 2) * unit, den,
    significand % 2 == 0⟩

/-- The nearest decimal of the interval on the grid of `10 ^ e`; of two equally near ones the even
one. -/
def Interval.onGrid? (i : Interval) (e : Int) : Option Nat :=
  let (n, d) := powerOfTen e
  let step := n * i.den
  let hit (c : Nat) : Bool :=
    if i.closed then i.lower * d ≤ c * step && c * step ≤ i.upper * d
    else i.lower * d < c * step && c * step < i.upper * d
  let c := i.value * d / step
  let below := distance (c * step) (i.value * d)
  let above := distance ((c + 1) * step) (i.value * d)
  let preferBelow := below < above || (below == above && c % 2 == 0)
  match hit c, hit (c + 1) with
  | true, true => some (if preferBelow then c else c + 1)
  | true, false => some c
  | false, true => some (c + 1)
  | false, false => none

/-- The shortest decimal of a positive double.  Seventeen digits always suffice. -/
def shortest (significand : Nat) (exponent : Int) : Digits :=
  let i := Interval.ofDouble significand exponent
  let point := decimalPoint i.value i.den
  let found := (List.range 17).findSome? fun count =>
    let e := point - (count + 1 : Nat)
    (i.onGrid? e).map (Digits.ofScaled · e)
  found.getD ⟨['0'], 0⟩

end Workflow.Decimal
