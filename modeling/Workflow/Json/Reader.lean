import Workflow.Decimal.Numeral
import Workflow.Json.Error
import Workflow.Value.Basic

/-!
# Reading JSON

A JSON text is read byte by byte into a value.  Integers keep all their digits; a number with a
fraction or an exponent is a floating-point number; of two fields with one name the later value
counts, at the earlier place.  Every reader takes the bytes that are left and returns what it read
with the bytes that are left then; a breach of the grammar is reported with the number of bytes
left, which `decode` turns into the number of bytes read.
-/

namespace Workflow.Json

/-- Why reading stops; `left` is the number of bytes not yet read. -/
inductive Stop where
  | truncated
  | malformed (problem : Problem) (left : Nat)
  | numberOutOfRange (place : Place)
  | integerOutOfRange (place : Place)
  | undecodable (flaw : Utf8.Flaw)
  | tooDeep

/-- The error that a stop means for a text of `total` bytes. -/
def Stop.toError (total : Nat) : Stop → Error
  | .truncated => .truncated
  | .malformed problem left => .malformed problem (total - left)
  | .numberOutOfRange place => .numberOutOfRange place
  | .integerOutOfRange place => .integerOutOfRange place
  | .undecodable flaw => .undecodable flaw
  | .tooDeep => .tooDeep

/-- A breach of the grammar in front of `rest`. -/
def breach {α : Type} (problem : Problem) (rest : List UInt8) : Except Stop α :=
  .error (.malformed problem rest.length)

/-- Whether a byte is white space between tokens. -/
def isSpace (b : UInt8) : Bool := b == 0x20 || b == 0x0A || b == 0x0D || b == 0x09

/-- The bytes without the white space at the front. -/
def skipSpace (bs : List UInt8) : List UInt8 := bs.dropWhile isSpace

/-- The byte of an ASCII character. -/
def ascii (c : Char) : UInt8 := UInt8.ofNat c.toNat

/-- Reads the rest of a fixed word whose first letter has been read. -/
def readWord (word : String) (value : Value) (bs : List UInt8) :
    Except Stop (Value × List UInt8) :=
  let expected := word.toList.map ascii
  let rest := bs.drop expected.length
  if bs.length < expected.length then .error .truncated
  else if bs.take expected.length == expected then .ok (value, rest)
  else breach .invalidCharacter rest

/-! ### Texts -/

/-- The byte of a short escape. -/
def shortEscape? (b : UInt8) : Option UInt8 :=
  if b == ascii '"' || b == ascii '\\' || b == ascii '/' then some b
  else if b == ascii 'b' then some 0x08
  else if b == ascii 'f' then some 0x0C
  else if b == ascii 'n' then some 0x0A
  else if b == ascii 'r' then some 0x0D
  else if b == ascii 't' then some 0x09
  else none

/-- The code unit written by four digits, or the number of bytes up to the first that is none. -/
def codeUnit (a b c d : UInt8) : Except Nat Nat :=
  let digit? (x : UInt8) := Hex.digitValue? (Char.ofNat x.toNat)
  match digit? a, digit? b, digit? c, digit? d with
  | none, _, _, _ => .error 1
  | _, none, _, _ => .error 2
  | _, _, none, _ => .error 3
  | _, _, _, none => .error 4
  | some w, some x, some y, some z => .ok (((16 * w + x) * 16 + y) * 16 + z)

/-- Reads a text behind its opening quote, up to and with the closing one, as the bytes it stands
for; `done` are the bytes already read, last byte first. -/
def readTextBytes (done : List UInt8) : List UInt8 → Except Stop (List UInt8 × List UInt8)
  | [] => .error .truncated
  | 0x22 :: rest => .ok (done.reverse, rest)
  | 0x5C :: 0x75 :: a :: b :: c :: d :: rest =>
    match codeUnit a b c d with
    | .error used => breach .badCodeUnit ((a :: b :: c :: d :: rest).drop used)
    | .ok unit =>
      if 0xDC00 ≤ unit ∧ unit ≤ 0xDFFF then breach .loneSurrogate rest
      else if 0xD800 ≤ unit ∧ unit ≤ 0xDBFF then
        -- Beyond the basic plane a character is written as two code units.
        match rest with
        | 0x5C :: 0x75 :: e :: f :: g :: h :: rest' =>
          match codeUnit e f g h with
          | .error used => breach .badCodeUnit ((e :: f :: g :: h :: rest').drop used)
          | .ok low =>
            if 0xDC00 ≤ low ∧ low ≤ 0xDFFF then
              let c := Char.ofNat (0x10000 + (unit - 0xD800) * 0x400 + (low - 0xDC00))
              readTextBytes ((String.utf8EncodeChar c).reverse ++ done) rest'
            else breach .loneSurrogate rest'
        | _ => if rest.length < 6 then .error .truncated else breach .missingSurrogate rest
      else readTextBytes ((String.utf8EncodeChar (Char.ofNat unit)).reverse ++ done) rest
  | 0x5C :: 0x75 :: _ => .error .truncated
  | 0x5C :: b :: rest =>
    match shortEscape? b with
    | some x => readTextBytes (x :: done) rest
    | none => breach .unknownEscape rest
  | [0x5C] => .error .truncated
  | b :: rest =>
    if b < 0x20 then breach .invalidCharacter (b :: rest) else readTextBytes (b :: done) rest

/-- Reads a text behind its opening quote. -/
def readText (bs : List UInt8) : Except Stop (String × List UInt8) :=
  match readTextBytes [] bs with
  | .error stop => .error stop
  | .ok (content, rest) =>
    match Utf8.firstFlaw content with
    | some flaw => .error (.undecodable flaw)
    | none => .ok (Utf8.decodeLossy content, rest)

/-! ### Numbers -/

/-- Whether a byte is a decimal digit. -/
def isDigitByte (b : UInt8) : Bool := ascii '0' ≤ b && b ≤ ascii '9'

/-- The values of the digits at the front, and the bytes behind them. -/
def takeDigits (bs : List UInt8) : List Nat × List UInt8 :=
  ((bs.takeWhile isDigitByte).map fun b => b.toNat - 0x30, bs.dropWhile isDigitByte)

/-- Reads the digits in front of a fraction or exponent: a zero stands alone. -/
def readWhole (bs : List UInt8) : Except Stop (List Nat × List UInt8) :=
  let (digits, rest) := takeDigits bs
  match digits with
  | [] => breach (if bs.isEmpty then .invalidNumber else .invalidCharacter) bs
  | 0 :: _ :: _ => breach .invalidNumber (bs.drop 1)
  | _ => .ok (digits, rest)

/-- Reads a fraction, if there is one. -/
def readFraction : List UInt8 → Except Stop (Option (List Nat) × List UInt8)
  | 0x2E :: rest =>
    let (digits, after) := takeDigits rest
    if digits.isEmpty then breach .invalidNumber rest else .ok (some digits, after)
  | bs => .ok (none, bs)

/-- A sign and the bytes behind it. -/
def takeSign : List UInt8 → Bool × List UInt8
  | 0x2D :: rest => (true, rest)
  | 0x2B :: rest => (false, rest)
  | bs => (false, bs)

/-- Reads an exponent, if there is one. -/
def readExponent : List UInt8 → Except Stop (Option Int × List UInt8)
  | [] => .ok (none, [])
  | b :: rest =>
    if b == ascii 'e' || b == ascii 'E' then
      let (negative, body) := takeSign rest
      let (digits, after) := takeDigits body
      if digits.isEmpty then breach .invalidNumber body
      else .ok (some (Numeral.signed negative (Numeral.ofDigits 10 digits)), after)
    else .ok (none, b :: rest)

/-- The number with the given parts. -/
def number (place : Place) (negative : Bool) (whole : List Nat) (fraction : Option (List Nat))
    (exponent : Option Int) : Except Stop Value :=
  if fraction.isNone && exponent.isNone then
    if Numeral.digitLimit < whole.length + (if negative then 1 else 0) then
      .error (.integerOutOfRange place)
    else .ok (.int (Numeral.signed negative (Numeral.ofDigits 10 whole)))
  else
    let places := fraction.getD []
    let x := Numeral.scaled negative (whole ++ places) (exponent.getD 0 - places.length)
    match Decimal.Binary.ofFloat x with
    | .infinite _ => .error (.numberOutOfRange place)
    | _ => .ok (.float x)

/-- Reads a number. -/
def readNumber (place : Place) (bs : List UInt8) : Except Stop (Value × List UInt8) := do
  let (negative, body) := match bs with
    | 0x2D :: rest => (true, rest)
    | _ => (false, bs)
  let (whole, afterWhole) ← readWhole body
  let (fraction, afterFraction) ← readFraction afterWhole
  let (exponent, rest) ← readExponent afterFraction
  let value ← number place negative whole fraction exponent
  return (value, rest)

/-! ### Nesting -/

/-- How many arrays and objects may stand around each other, if the room for nested readings is
bounded. -/
class Nesting where
  /-- The greatest number, if there is one. -/
  limit? : Option Nat

/-- Nested readings without a bound, where no other one is set. -/
instance (priority := low) Nesting.unbounded : Nesting := ⟨none⟩

/-- Whether an array or object may stand inside `depth` others. -/
def Nesting.allows [Nesting] (depth : Nat) : Bool :=
  match limit? with
  | none => true
  | some most => depth < most

@[simp] theorem Nesting.allows_unbounded (depth : Nat) : Nesting.allows depth = true := rfl

/-! ### Values -/

variable [Nesting]

mutual

/-- Reads a value; `steps` bounds the number of nested readings. -/
def readValue (steps : Nat) (place : Place) (bs : List UInt8) :
    Except Stop (Value × List UInt8) :=
  match steps with
  | 0 => .error .truncated
  | steps + 1 =>
    match skipSpace bs with
    | [] => .error .truncated
    | b :: rest =>
      if b == ascii 'n' then readWord "ull" .null rest
      else if b == ascii 't' then readWord "rue" (.bool true) rest
      else if b == ascii 'f' then readWord "alse" (.bool false) rest
      else if b == ascii '"' then (readText rest).map fun (s, left) => (.text s, left)
      else if b == ascii '[' then
        if Nesting.allows place.length then readItems steps place [] rest else .error .tooDeep
      else if b == ascii '{' then
        if Nesting.allows place.length then readFields steps place none rest else .error .tooDeep
      else readNumber place (b :: rest)

/-- Reads the items of an array up to and with the closing bracket; `done` are the items already
read, last item first. -/
def readItems (steps : Nat) (place : Place) (done : List Value) (bs : List UInt8) :
    Except Stop (Value × List UInt8) :=
  match steps with
  | 0 => .error .truncated
  | steps + 1 =>
    match skipSpace bs with
    | [] => .error .truncated
    | b :: rest =>
      if b == ascii ']' then .ok (.list done.reverse, rest)
      else if done.isEmpty then readItem steps place done (b :: rest)
      else if b == ascii ',' then
        match skipSpace rest with
        | [] => .error .truncated
        | c :: rest' =>
          if c == ascii ']' then breach .trailingCommaInArray (c :: rest')
          else readItem steps place done (c :: rest')
      else breach .missingCommaInArray (b :: rest)

/-- Reads one item of an array and the items behind it. -/
def readItem (steps : Nat) (place : Place) (done : List Value) (bs : List UInt8) :
    Except Stop (Value × List UInt8) :=
  match steps with
  | 0 => .error .truncated
  | steps + 1 =>
    match readValue steps (place ++ [.item done.length]) bs with
    | .error stop => .error stop
    | .ok (value, rest) => readItems steps place (value :: done) rest

/-- Reads the fields of an object up to and with the closing brace; `done?` are the fields already
read, or `none` in front of the first. -/
def readFields (steps : Nat) (place : Place) (done? : Option (List (String × Value)))
    (bs : List UInt8) : Except Stop (Value × List UInt8) :=
  match steps with
  | 0 => .error .truncated
  | steps + 1 =>
    match skipSpace bs with
    | [] => .error .truncated
    | b :: rest =>
      if b == ascii '}' then .ok (.record (done?.getD []), rest)
      else
        match done? with
        | none => readField steps place [] (b :: rest)
        | some done =>
          if b == ascii ',' then readField steps place done (skipSpace rest)
          else breach .missingCommaInObject (b :: rest)

/-- Reads one field of an object and the fields behind it. -/
def readField (steps : Nat) (place : Place) (done : List (String × Value)) (bs : List UInt8) :
    Except Stop (Value × List UInt8) :=
  match steps with
  | 0 => .error .truncated
  | steps + 1 =>
    match bs with
    | [] => .error .truncated
    | b :: rest =>
      if b == ascii '"' then
        match readText rest with
        | .error stop => .error stop
        | .ok (name, afterName) =>
          match skipSpace afterName with
          | [] => .error .truncated
          | c :: afterColon =>
            if c == ascii ':' then
              match readValue steps (place ++ [.entry]) afterColon with
              | .error stop => .error stop
              | .ok (value, left) =>
                readFields steps place (some (Fields.put done name value)) left
            else breach .missingColon (c :: afterColon)
      else if b == ascii '}' then breach .trailingCommaInObject (b :: rest)
      else breach .keyNotText (b :: rest)

end

/-- Reads a whole text: one value and nothing but white space behind it. -/
def readAll (bs : List UInt8) : Except Stop Value :=
  match readValue (3 * bs.length + 3) [] bs with
  | .error stop => .error stop
  | .ok (value, rest) =>
    match skipSpace rest with
    | [] => .ok value
    | _ :: left => breach .trailingCharacters left

/-- The value written by a JSON text given as bytes. -/
def decode (bs : List UInt8) : Except Error Value :=
  (readAll bs).mapError (Stop.toError bs.length)

/-- The value written by a JSON text. -/
def decodeText (s : String) : Except Error Value := decode (Utf8.encode s)

end Workflow.Json
