import Workflow.Decimal.Shortest

/-!
# Writing doubles

A written form of doubles is a record of choices: between which points the digits are written
positionally, how the exponent looks, and the names of the values that have no digits.  Every form
writes the shortest digits that read back as the double.
-/

namespace Workflow.Decimal

/-- The choices of a written form. -/
structure Layout where
  /-- The least point of a number written positionally. -/
  leastPoint : Int
  /-- The greatest point of a number written positionally. -/
  greatestPoint : Int
  /-- Whether an exponent that is not negative has a sign. -/
  plusSign : Bool
  /-- The least number of digits of an exponent. -/
  exponentWidth : Nat
  /-- Whether a single digit in front of an exponent is followed by `.0`. -/
  fractionBeforeExponent : Bool
  /-- The name of the infinite value. -/
  infinityName : String
  /-- The name of the negative infinite value. -/
  negativeInfinityName : String
  /-- The name of the value that is not a number. -/
  nanName : String

/-- The form used in messages and in plain text. -/
def Layout.plain : Layout := ⟨-3, 16, true, 2, false, "inf", "-inf", "nan"⟩

/-- The form used in JSON text, where a number that is not finite is `null`. -/
def Layout.json : Layout := ⟨-4, 16, false, 1, false, "null", "null", "null"⟩

/-- The form used in YAML text. -/
def Layout.yaml : Layout := ⟨-3, 16, true, 2, true, ".inf", "-.inf", ".nan"⟩

/-- Digits with at least `width` of them, filled up with zeros in front. -/
def padLeft (width : Nat) (cs : List Char) : List Char :=
  List.replicate (width - cs.length) '0' ++ cs

/-- Digits without an exponent, with at least one digit on each side of the point. -/
def positional (d : Digits) : List Char :=
  if d.point ≤ 0 then '0' :: '.' :: (List.replicate (-d.point).toNat '0' ++ d.digits)
  else
    let whole := d.point.toNat
    let missing := whole - d.digits.length
    let fraction := d.digits.drop whole
    d.digits.take whole ++ List.replicate missing '0' ++ '.' ::
      (if fraction.isEmpty then ['0'] else fraction)

/-- The exponent mark with its number. -/
def Layout.exponent (l : Layout) (e : Int) : List Char :=
  let sign := if e < 0 then ['-'] else if l.plusSign then ['+'] else []
  'e' :: (sign ++ padLeft l.exponentWidth (natDigits e.natAbs))

/-- Digits with one of them in front of the point and an exponent. -/
def Layout.scientific (l : Layout) (d : Digits) : List Char :=
  let fraction := d.digits.drop 1
  let point := if !fraction.isEmpty then '.' :: fraction
    else if l.fractionBeforeExponent then ['.', '0'] else []
  d.digits.take 1 ++ point ++ l.exponent (d.point - 1)

/-- The text of a positive decimal. -/
def Layout.writeDigits (l : Layout) (d : Digits) : List Char :=
  if l.leastPoint ≤ d.point ∧ d.point ≤ l.greatestPoint then positional d else l.scientific d

/-- The text of a double. -/
def Layout.write (l : Layout) (x : Float) : String :=
  match Binary.ofFloat x with
  | .nan => l.nanName
  | .infinite negative => if negative then l.negativeInfinityName else l.infinityName
  | .finite negative significand exponent =>
    let body := if significand = 0 then ['0', '.', '0']
      else l.writeDigits (shortest significand exponent)
    String.ofList (if negative then '-' :: body else body)

end Workflow.Decimal
