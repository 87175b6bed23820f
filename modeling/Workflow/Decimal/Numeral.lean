import Workflow.Decimal.Binary
import Workflow.Text.Blank
import Workflow.Text.Digit
import Workflow.Text.Quoted

/-!
# Numerals

Integers and floating-point numbers written as text.  Digits of all scripts are taken, a single
underscore may stand between two digits, and blanks around a numeral are ignored (the four
separators `U+001C` to `U+001F` excepted).  A decimal integer has at most `digitLimit` digits.
-/

namespace Workflow.Numeral

/-- Why a text is no numeral. -/
inductive Error where
  /-- The text is no integer. -/
  | notAnInteger (text : String)
  /-- The text is no floating-point number. -/
  | notANumber (text : String)
  /-- The text has more digits than can be read. -/
  | tooManyDigits (count : Nat)
  /-- The integer has more digits than can be written. -/
  | tooLongToWrite
  deriving DecidableEq, Repr

/-- The greatest number of decimal digits of an integer in text. -/
def digitLimit : Nat := 4300

/-- The wording of a refusal; the text shown for an integer is cut to 200 characters. -/
def Error.message : Error → String
  | .notAnInteger s =>
    "invalid literal for int() with base 10: "
      ++ String.ofList ((Quoted.ofChars s.toList).take 200)
  | .notANumber s => "could not convert string to float: " ++ Quoted.text s
  | .tooManyDigits count =>
    "Exceeds the limit (4300 digits) for integer string conversion: value has " ++ toString count
      ++ " digits; use sys.set_int_max_str_digits() to increase the limit"
  | .tooLongToWrite =>
    "Exceeds the limit (4300 digits) for integer string conversion; "
      ++ "use sys.set_int_max_str_digits() to increase the limit"

/-- Whether a character is ignored around a numeral. -/
def isMargin (c : Char) : Bool := Text.isBlank c && !(0x1C ≤ c.toNat && c.toNat ≤ 0x1F)

/-- The characters without the margins at both ends. -/
def withoutMargins (cs : List Char) : List Char :=
  ((cs.dropWhile isMargin).reverse.dropWhile isMargin).reverse

/-- A sign and what follows it; without a sign the number is not negative. -/
def takeSign : List Char → Bool × List Char
  | '-' :: rest => (true, rest)
  | '+' :: rest => (false, rest)
  | cs => (false, cs)

/-- The values of the digits that follow a digit, and what follows them; an underscore is passed
over where a digit follows it. -/
def moreDigits (value? : Char → Option Nat) : List Char → List Nat × List Char
  | [] => ([], [])
  | '_' :: c :: rest =>
    match value? c with
    | some d => let (ds, r) := moreDigits value? rest; (d :: ds, r)
    | none => ([], '_' :: c :: rest)
  | c :: rest =>
    match value? c with
    | some d => let (ds, r) := moreDigits value? rest; (d :: ds, r)
    | none => ([], c :: rest)

/-- The values of the digits at the front, and what follows them. -/
def takeDigits (value? : Char → Option Nat) : List Char → List Nat × List Char
  | '_' :: rest => ([], '_' :: rest)
  | cs => moreDigits value? cs

/-- The number with the given digits. -/
def ofDigits (base : Nat) (ds : List Nat) : Nat := ds.foldl (fun n d => base * n + d) 0

/-- A number with a sign. -/
def signed (negative : Bool) (n : Nat) : Int := if negative then -(n : Int) else n

/-- The integer that a decimal numeral denotes. -/
def readInt (s : String) : Except Error Int :=
  let (negative, body) := takeSign (withoutMargins s.toList)
  let (ds, rest) := takeDigits Text.digitValue? body
  if ds.isEmpty || rest.head? == some '_' then .error (.notAnInteger s)
  else if digitLimit < ds.length then .error (.tooManyDigits ds.length)
  else if rest.isEmpty then .ok (signed negative (ofDigits 10 ds))
  else .error (.notAnInteger s)

/-- The value of a digit of a hexadecimal numeral: a decimal digit of any script or a letter. -/
def hexValue? (c : Char) : Option Nat := (Hex.digitValue? c).orElse fun _ => Text.digitValue? c

/-- The integer that a hexadecimal numeral denotes: an optional minus sign, the mark `0x`, an
optional underscore and any number of digits. -/
def readHex (cs : List Char) : Option Int :=
  let (negative, body) := match cs with
    | '-' :: rest => (true, rest)
    | _ => (false, cs)
  if Hex.isMarked body then
    let digits := match body.drop 2 with
      | '_' :: rest => rest
      | rest => rest
    let (ds, rest) := takeDigits hexValue? digits
    if !ds.isEmpty && rest.isEmpty then some (signed negative (ofDigits 16 ds)) else none
  else none

/-- The words that name numbers without digits, in lower case. -/
def namedNumber? (negative : Bool) (cs : List Char) : Option Float :=
  let word := String.ofList (cs.map Char.toLower)
  if word = "inf" || word = "infinity" then some (Decimal.infinity negative)
  else if word = "nan" then some Decimal.notANumber
  else none

/-- The exponent at the front: the letter `e`, a sign and digits. -/
def takeExponent : List Char → Option (Int × List Char)
  | [] => some (0, [])
  | c :: rest =>
    if c == 'e' || c == 'E' then
      let (negative, body) := takeSign rest
      let (ds, r) := takeDigits Text.digitValue? body
      if ds.isEmpty then none else some (signed negative (ofDigits 10 ds), r)
    else some (0, c :: rest)

/-- The double nearest to `digits · 10 ^ exponent`.  An exponent far outside the range of doubles
is cut off before powers are formed. -/
def scaled (negative : Bool) (digits : List Nat) (exponent : Int) : Float :=
  let significant := digits.dropWhile (· == 0)
  let n := ofDigits 10 significant
  let magnitude := exponent + significant.length
  if n = 0 || magnitude < -400 then Decimal.floatOfRatio negative 0 1
  else if 400 < magnitude then Decimal.infinity negative
  else if 0 ≤ exponent then Decimal.floatOfRatio negative (n * Nat.pow 10 exponent.toNat) 1
  else Decimal.floatOfRatio negative n (Nat.pow 10 (-exponent).toNat)

/-- The fraction at the front: a point and digits, possibly none. -/
def takeFraction : List Char → List Nat × List Char
  | '.' :: rest => takeDigits Text.digitValue? rest
  | cs => ([], cs)

/-- The floating-point number that a numeral without sign denotes. -/
def readUnsigned (negative : Bool) (cs : List Char) : Option Float :=
  match namedNumber? negative cs with
  | some x => some x
  | none =>
    let (whole, afterWhole) := takeDigits Text.digitValue? cs
    let (fraction, afterFraction) := takeFraction afterWhole
    if whole.isEmpty && fraction.isEmpty then none
    else match takeExponent afterFraction with
      | some (e, []) => some (scaled negative (whole ++ fraction) (e - fraction.length))
      | _ => none

/-- The floating-point number that a numeral denotes. -/
def readFloat (s : String) : Except Error Float :=
  let (negative, body) := takeSign (withoutMargins s.toList)
  match readUnsigned negative body with
  | some x => .ok x
  | none => .error (.notANumber s)

end Workflow.Numeral
