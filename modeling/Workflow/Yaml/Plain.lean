/-!
# Plain scalars of YAML

A plain scalar is read as something other than a text if it has the form of a truth value, an
integer, a floating-point number, nothing, a point in time, a merge key or a default value.  Each
form has a recogniser of its own.
-/

namespace Workflow.Yaml

/-- Words that are read as truth values. -/
def boolWords : List String := [
  "yes", "Yes", "YES", "no", "No", "NO", "true", "True", "TRUE", "false", "False", "FALSE",
  "on", "On", "ON", "off", "Off", "OFF"]

/-- Words that are read as nothing. -/
def nullWords : List String := ["", "~", "null", "Null", "NULL"]

/-- Other texts with a meaning of their own. -/
def reservedWords : List String := ["<<", "=", "!", "&", "*"]

/-- Whether a character is a digit below a base, or an underscore. -/
def isDigitOrGap (base : Nat) (c : Char) : Bool :=
  c == '_' || ('0' ≤ c && c.toNat < 0x30 + base)

/-- Whether a character is a hexadecimal digit or an underscore. -/
def isHexOrGap (c : Char) : Bool :=
  isDigitOrGap 10 c || ('a' ≤ c && c ≤ 'f') || ('A' ≤ c && c ≤ 'F')

/-- A text without its sign. -/
def unsigned : List Char → List Char
  | '-' :: cs => cs
  | '+' :: cs => cs
  | cs => cs

/-- Whether characters are one or two digits for sixtieths. -/
def isSixtieth : List Char → Bool
  | [a] => a.isDigit
  | [a, b] => '0' ≤ a && a ≤ '5' && b.isDigit
  | _ => false

/-- The runs between the occurrences of a character. -/
def splitAtChar (sep : Char) : List Char → List (List Char)
  | [] => [[]]
  | c :: cs =>
    match splitAtChar sep cs with
    | [] => [[c]]
    | p :: ps => if c == sep then [] :: p :: ps else (c :: p) :: ps

/-- Whether characters start with a digit in bounds and go on with decimal digits and
underscores. -/
def isNumberFrom (least : Char) : List Char → Bool
  | c :: cs => least ≤ c && c ≤ '9' && cs.all (isDigitOrGap 10)
  | [] => false

/-- Whether characters are a number of sixtieths of sixtieths, the first part starting with a digit
of at least `least`. -/
def isSexagesimal (least : Char) (cs : List Char) : Bool :=
  match splitAtChar ':' cs with
  | whole :: part :: parts => isNumberFrom least whole && (part :: parts).all isSixtieth
  | _ => false

/-- Whether a text is read as an integer. -/
def isInteger (cs : List Char) : Bool :=
  match unsigned cs with
  | '0' :: 'b' :: ds => !ds.isEmpty && ds.all (isDigitOrGap 2)
  | '0' :: 'x' :: ds => !ds.isEmpty && ds.all isHexOrGap
  | '0' :: ds => ds.all (isDigitOrGap 8)
  | ds => isNumberFrom '1' ds || isSexagesimal '1' ds

/-- Whether characters are nothing or an exponent with its sign. -/
def isExponentOrNone : List Char → Bool
  | [] => true
  | e :: sign :: ds =>
    (e == 'e' || e == 'E') && (sign == '-' || sign == '+') && !ds.isEmpty && ds.all Char.isDigit
  | _ => false

/-- Whether characters are a number with a point and possibly an exponent. -/
def isDecimal (cs : List Char) : Bool :=
  let whole := cs.takeWhile (isDigitOrGap 10)
  match cs.dropWhile (isDigitOrGap 10) with
  | '.' :: rest => isNumberFrom '0' whole && isExponentOrNone (rest.dropWhile (isDigitOrGap 10))
  | _ => false

/-- Whether characters are a point, digits and possibly an exponent. -/
def isFraction : List Char → Bool
  | '.' :: cs =>
    isNumberFrom '0' (cs.takeWhile (isDigitOrGap 10))
      && isExponentOrNone (cs.dropWhile (isDigitOrGap 10))
  | _ => false

/-- Whether characters are a number of sixtieths with a point behind it. -/
def isSexagesimalDecimal (cs : List Char) : Bool :=
  match cs.dropWhile (· != '.') with
  | '.' :: rest => isSexagesimal '0' (cs.takeWhile (· != '.')) && rest.all (isDigitOrGap 10)
  | _ => false

/-- Names of infinite numbers without their sign. -/
def infinityNames : List String := [".inf", ".Inf", ".INF"]

/-- Names of what is not a number. -/
def nanNames : List String := [".nan", ".NaN", ".NAN"]

/-- Whether a text is read as a floating-point number. -/
def isFloat (cs : List Char) : Bool :=
  isDecimal (unsigned cs) || isFraction cs || isSexagesimalDecimal (unsigned cs)
    || infinityNames.contains (String.ofList (unsigned cs)) || nanNames.contains (String.ofList cs)

/-! ### Points in time -/

/-- Whether characters are exactly `n` digits. -/
def areDigits (n : Nat) (cs : List Char) : Bool := cs.length == n && cs.all Char.isDigit

/-- Whether characters are one or two digits. -/
def isShortNumber (cs : List Char) : Bool := areDigits 1 cs || areDigits 2 cs

/-- Whether a character is a space or a tab. -/
def isGap (c : Char) : Bool := c == ' ' || c == '\t'

/-- Whether characters are nothing or a time zone. -/
def isZoneOrNone (cs : List Char) : Bool :=
  match cs.dropWhile isGap with
  | [] => cs.isEmpty
  | ['Z'] => true
  | c :: rest =>
    (c == '-' || c == '+') &&
      match splitAtChar ':' rest with
      | [hours] => isShortNumber hours
      | [hours, minutes] => isShortNumber hours && areDigits 2 minutes
      | _ => false

/-- Whether characters are seconds, possibly with a fraction and a time zone. -/
def isSecondsAndZone (cs : List Char) : Bool :=
  let rest := match cs.drop 2 with
    | '.' :: fraction => fraction.dropWhile Char.isDigit
    | rest => rest
  areDigits 2 (cs.take 2) && isZoneOrNone rest

/-- Whether characters are a time of day, possibly with a time zone. -/
def isTime (cs : List Char) : Bool :=
  let hours := cs.takeWhile Char.isDigit
  match cs.dropWhile Char.isDigit with
  | ':' :: a :: b :: ':' :: rest =>
    isShortNumber hours && a.isDigit && b.isDigit && isSecondsAndZone rest
  | _ => false

/-- Whether characters are what separates a date from a time, and a time. -/
def isSeparatorAndTime : List Char → Bool
  | c :: cs =>
    if c == 'T' || c == 't' then isTime cs
    else isGap c && isTime (cs.dropWhile isGap)
  | [] => false

/-- Whether a text is read as a point in time. -/
def isTimestamp (cs : List Char) : Bool :=
  let year := cs.takeWhile Char.isDigit
  match cs.dropWhile Char.isDigit with
  | '-' :: afterYear =>
    let month := afterYear.takeWhile Char.isDigit
    match afterYear.dropWhile Char.isDigit with
    | '-' :: afterMonth =>
      let day := afterMonth.takeWhile Char.isDigit
      let rest := afterMonth.dropWhile Char.isDigit
      areDigits 4 year &&
        ((areDigits 2 month && areDigits 2 day && rest.isEmpty)
          || (isShortNumber month && isShortNumber day && isSeparatorAndTime rest))
    | _ => false
  | _ => false

/-- Whether a plain scalar is read as a text. -/
def readsAsText (s : String) : Bool :=
  !(boolWords.contains s || nullWords.contains s || reservedWords.contains s
    || isInteger s.toList || isFloat s.toList || isTimestamp s.toList)

end Workflow.Yaml
