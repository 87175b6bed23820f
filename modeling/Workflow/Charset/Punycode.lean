import Workflow.Charset.Front

/-!
# Unicode in letters and digits

ASCII characters come first, up to the last hyphen.  Behind it numbers to a varying base say which
further characters are inserted, in the order of their code points, and where.
-/

namespace Workflow.Charset

/-- The value of a letter or digit of a number. -/
def numeralDigit? (b : UInt8) : Option Nat :=
  let n := b.toNat
  if 0x41 ≤ n ∧ n ≤ 0x5A then some (n - 0x41)
  else if 0x61 ≤ n ∧ n ≤ 0x7A then some (n - 0x61)
  else if 0x30 ≤ n ∧ n ≤ 0x39 then some (n - 0x30 + 26)
  else none

/-- The least digit that does not end a number at place `j`. -/
def threshold (j bias : Nat) : Nat := min 26 (max 1 (36 * (j + 1) - bias))

/-- Reads a number: its value and what follows it.  `none` where it does not end. -/
def readNumeral (bias j weight value : Nat) : List UInt8 → Option (Nat × List UInt8)
  | [] => none
  | b :: rest =>
    match numeralDigit? b with
    | none => none
    | some digit =>
      let t := threshold j bias
      let value' := value + digit * weight
      if digit < t then some (value', rest)
      else readNumeral bias (j + 1) (weight * (36 - t)) value' rest

/-- Divides until little is left, counting the divisions; `steps` bounds their number. -/
def scaleDown : Nat → Nat → Nat → Nat × Nat
  | 0, delta, divisions => (delta, divisions)
  | steps + 1, delta, divisions =>
    if 455 < delta then scaleDown steps (delta / 35) (divisions + 36) else (delta, divisions)

/-- The bias behind a number. -/
def adaptedBias (delta : Nat) (first : Bool) (count : Nat) : Nat :=
  let halved := if first then delta / 700 else delta / 2
  let start := halved + halved / count
  let (rest, divisions) := scaleDown (start + 1).log2 start 0
  divisions + 36 * rest / (rest + 38)

/-- Inserts an element at an index. -/
def insertAt {α : Type} (l : List α) (i : Nat) (a : α) : List α := l.take i ++ a :: l.drop i

/-- The greatest code point. -/
def greatestCode : Nat := 0x10FFFF

/-- Inserts the characters that numbers denote; `code` is the code point of the last one, `next` the
index behind it, and `steps` bounds their number.  A number that does not end is the last one. -/
def insertAll : Nat → Bool → Nat → Nat → Nat → Places → List UInt8 → Places
  | 0, _, _, _, _, base, _ => base
  | steps + 1, first, code, next, bias, base, bytes =>
    if bytes.isEmpty then base
    else match readNumeral bias 0 1 0 bytes with
      | none => base
      | some (delta, rest) =>
        let count := base.length + 1
        let raised := code + (next + delta) / count
        let code' := if greatestCode < raised then '?'.toNat else raised
        let index := (next + delta) % count
        let place := if code'.isValidChar then some (Char.ofNat code') else none
        insertAll steps false code' (index + 1) (adaptedBias delta first count)
          (insertAt base index place) rest

/-- The index of the last hyphen. -/
def lastHyphen? (bytes : List UInt8) : Option Nat :=
  (bytes.reverse.idxOf? 0x2D).map fun i => bytes.length - 1 - i

/-- Decodes Unicode in letters and digits. -/
def decodePunycode (bytes : List UInt8) : Except Error Places :=
  let (base, numbers) := match lastHyphen? bytes with
    | some i => (bytes.take i, bytes.drop (i + 1))
    | none => ([], bytes)
  match numbers.findIdx? (0x80 ≤ ·) with
  | some i => .error (.notAscii (numbers[i]?.getD 0) i)
  | none =>
    let places := base.map fun b => if b < 0x80 then some (Char.ofNat b.toNat) else none
    .ok (insertAll numbers.length true 0x80 0 72 places numbers)

end Workflow.Charset
