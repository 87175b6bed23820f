import Workflow.Decimal.Layout

/-!
# Doubles with a fixed number of places

Rounding a double's exact value to a number of decimal places, a tie to the even last digit:
as text, and as the double nearest to the rounded decimal.
-/

namespace Workflow.Decimal

/-- The value `significand · 2 ^ exponent` in units of `10 ^ -places`, rounded. -/
def unitsOfPlaces (places significand : Nat) (exponent : Int) : Nat :=
  let (num, den) := scaleByTwo significand exponent
  roundDiv (num * Nat.pow 10 places) den

/-- A number with its last `places` digits behind the decimal point. -/
def withPoint (places units : Nat) : List Char :=
  let cs := padLeft (places + 1) (natDigits units)
  let whole := cs.length - places
  if places = 0 then cs else cs.take whole ++ '.' :: cs.drop whole

/-- The text of a double with exactly `places` places. -/
def fixedPlaces (places : Nat) (x : Float) : String :=
  match Binary.ofFloat x with
  | .nan => "nan"
  | .infinite negative => if negative then "-inf" else "inf"
  | .finite negative significand exponent =>
    let body := withPoint places (unitsOfPlaces places significand exponent)
    String.ofList (if negative then '-' :: body else body)

/-- The double nearest to a double rounded to a number of places. -/
def roundToPlaces (places : Nat) (x : Float) : Float :=
  match Binary.ofFloat x with
  | .finite negative significand exponent =>
    floatOfRatio negative (unitsOfPlaces places significand exponent) (Nat.pow 10 places)
  | _ => x

end Workflow.Decimal
