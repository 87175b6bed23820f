import Workflow.Charset.Wide

/-!
# Escape sequences

Bytes stand for the first 256 characters, and a backslash opens an escape sequence.  In the raw form
only the sequences that begin with `u` and `U` have a meaning; otherwise there are sequences for
control characters and numbers to base 8 and 16 as well.  Two sequences for the halves of a pair are
one character.
-/

namespace Workflow.Charset

/-- The value of a digit to base 16. -/
def hexDigit? (b : UInt8) : Option Nat :=
  let n := b.toNat
  if 0x30 ≤ n ∧ n ≤ 0x39 then some (n - 0x30)
  else if 0x41 ≤ n ∧ n ≤ 0x46 then some (n - 0x41 + 10)
  else if 0x61 ≤ n ∧ n ≤ 0x66 then some (n - 0x61 + 10)
  else none

/-- The number of `count` digits to base 16 at the front; `value` is that of the digits so far. -/
def hexNumber? (value : Nat) : Nat → List UInt8 → Option Nat
  | 0, _ => some value
  | _ + 1, [] => none
  | count + 1, b :: rest =>
    (hexDigit? b).bind fun digit => hexNumber? (16 * value + digit) count rest

/-- The share of the first half of a pair in the number of its character. -/
def highShare? (n : Nat) : Option Nat :=
  if 0xD800 ≤ n ∧ n < 0xDC00 then some (0x10000 + 0x400 * (n - 0xD800)) else none

/-- The share of the second half of a pair in the number of its character. -/
def lowShare? (n : Nat) : Option Nat :=
  if 0xDC00 ≤ n ∧ n < 0xE000 then some (n - 0xDC00) else none

/-- The share of the second half whose sequence stands at the front, and the length of that. -/
def lowFront? : List UInt8 → Option (Nat × Nat)
  | 0x5C :: 0x75 :: rest => ((hexNumber? 0 4 rest).bind lowShare?).map (·, 6)
  | 0x5C :: 0x55 :: rest => ((hexNumber? 0 8 rest).bind lowShare?).map (·, 10)
  | _ => none

/-- Reads `count` digits to base 16 behind `read` bytes; `value` is that of the digits so far. -/
def hexFront (read value : Nat) : Nat → List UInt8 → Front
  | 0, rest =>
    match charOf? value, highShare? value, lowFront? rest with
    | some c, _, _ => .char c read
    | none, some high, some (low, length) => .char (Char.ofNat (high + low)) (read + length)
    | none, _, _ => .flawed read
  | _ + 1, [] => .short
  | count + 1, b :: rest =>
    match hexDigit? b with
    | some digit => hexFront (read + 1) (16 * value + digit) count rest
    | none => .flawed read

/-- The value of a digit to base 8. -/
def octalDigit? (b : UInt8) : Option Nat :=
  if 0x30 ≤ b ∧ b ≤ 0x37 then some (b.toNat - 0x30) else none

/-- The digits to base 8 at the front, at most `count`. -/
def octalDigits : Nat → List UInt8 → List Nat
  | 0, _ => []
  | _ + 1, [] => []
  | count + 1, b :: rest =>
    match octalDigit? b with
    | some digit => digit :: octalDigits count rest
    | none => []

/-- What stands at the front where a number to base 8 does, behind the backslash. -/
def octalFront (bytes : List UInt8) : Front :=
  let digits := octalDigits 3 bytes
  .char (Char.ofNat (digits.foldl (fun n d => 8 * n + d) 0)) (digits.length + 1)

/-- What stands at the front where a name does, behind the backslash and its letter.  No names are
known. -/
def nameFront : List UInt8 → Front
  | [] => .short
  | 0x7B :: rest =>
    match rest.idxOf? 0x7D with
    | none => .short
    | some 0 => .flawed 3
    | some n => .flawed (n + 4)
  | _ => .flawed 2

/-- The control characters with a letter of their own. -/
def letterEscapes : List (UInt8 × Char) := [
  (0x5C, '\\'), (0x27, '\''), (0x22, '"'), (0x62, '\x08'), (0x66, '\x0c'), (0x74, '\t'),
  (0x6E, '\n'), (0x72, '\r'), (0x76, '\x0b'), (0x61, '\x07')]

/-- The character of a byte. -/
def latinChar (b : UInt8) : Char := Char.ofNat b.toNat

/-- What stands at the front of a text with escape sequences. -/
def escapedFront : List UInt8 → Front
  | [] => .short
  | b :: rest =>
    if b ≠ 0x5C then .char (latinChar b) 1
    else match rest with
      | [] => .short
      | c :: more =>
        if c = 0x0A then .chars [] 2
        else match letterEscapes.lookup c with
          | some k => .char k 2
          | none =>
            if (octalDigit? c).isSome then octalFront rest
            else if c = 0x78 then hexFront 2 0 2 more
            else if c = 0x75 then hexFront 2 0 4 more
            else if c = 0x55 then hexFront 2 0 8 more
            else if c = 0x4E then nameFront more
            else .chars ['\\', latinChar c] 2

/-- What stands at the front of a text with raw escape sequences. -/
def rawFront : List UInt8 → Front
  | [] => .short
  | b :: rest =>
    if b ≠ 0x5C then .char (latinChar b) 1
    else match rest with
      | [] => .char '\\' 1
      | c :: more =>
        if c = 0x75 then hexFront 2 0 4 more
        else if c = 0x55 then hexFront 2 0 8 more
        else .chars ['\\', latinChar c] 2

end Workflow.Charset
