import Workflow.Charset.Front
import Workflow.Charset.Sheet.Ks

/-!
# Korean codes

A syllable is composed of an initial, a vowel and an optional final.  The standard sheet holds the
common syllables; the other ones are spelled out with the letters of the sheet, follow in order in
rows of their own, or are written with five bits for each of the three parts.
-/

namespace Workflow.Charset

/-! ### Syllables -/

/-- The letters that are initials, as places among all consonants. -/
def initialLetters : List Nat :=
  [0, 1, 3, 6, 7, 8, 16, 17, 18, 20, 21, 22, 23, 24, 25, 26, 27, 28, 29]

/-- The letters that are finals, as places among all consonants. -/
def finalLetters : List Nat :=
  [0, 1, 2, 3, 4, 5, 6, 8, 9, 10, 11, 12, 13, 14, 15, 16, 17, 19, 20, 21, 22, 23, 25, 26, 27, 28,
    29]

/-- The first syllable. -/
def firstSyllable : Nat := 0xAC00

/-- The number of syllables. -/
def syllableCount : Nat := 11172

/-- The syllable with an initial, a vowel and a final; no final is the final zero. -/
def syllable (initial vowel final : Nat) : Char :=
  Char.ofNat (firstSyllable + 588 * initial + 28 * vowel + final)

/-- The consonant at a place among all consonants. -/
def consonant (place : Nat) : Char := Char.ofNat (0x3131 + place)

/-- The vowel at a place among all vowels. -/
def vowel (place : Nat) : Char := Char.ofNat (0x314F + place)

/-! ### The standard code -/

/-- The character of a code on the standard sheet. -/
def ksChar? (a b : Nat) : Option Char := Sheet.ksX1001.char? a b

/-- The syllable that is spelled with the second bytes of its three letters. -/
def spelledSyllable? (initial middle final : Nat) : Option Char := do
  if initial < 0xA1 || middle < 0xBF || 0xD3 < middle || final < 0xA1 then none
  let i ← initialLetters.idxOf? (initial - 0xA1)
  let f ← if final = 0xD4 then some 0 else (finalLetters.idxOf? (final - 0xA1)).map (· + 1)
  return syllable i (middle - 0xBF) f

/-- What stands at the front of a spelled syllable: a filler and three letters. -/
def spelledFront : List UInt8 → Front
  | _ :: _ :: a :: initial :: b :: middle :: c :: final :: _ =>
    if a = 0xA4 && b = 0xA4 && c = 0xA4 then
      .ofChar? (spelledSyllable? initial.toNat middle.toNat final.toNat) 8
    else .flawed 1
  | _ => .short

/-- What stands at the front in the standard code. -/
def eucKr (bytes : List UInt8) : Front :=
  match bytes with
  | 0xA4 :: 0xD4 :: _ => spelledFront bytes
  | _ => doubleByte ksChar? bytes

/-! ### The code with all syllables -/

/-- The `n`-th number from `start` on that is not among `taken`, which are in order. -/
def nthFree : Nat → Nat → List Nat → Nat
  | n, start, [] => start + n
  | n, start, t :: taken =>
    if n < t - start then start + n else nthFree (n - (t - start)) (t + 1) taken

/-- The syllables on the standard sheet in order. -/
def commonSyllables : List Nat :=
  (Sheet.ksX1001.filter fun r => 0xB0 ≤ r.row && r.row ≤ 0xC8).flatMap
    fun r => r.text.toList.map Char.toNat

/-- The column of a second byte in the rows of further syllables. -/
def syllableColumn? (b : Nat) : Option Nat :=
  if 0x41 ≤ b ∧ b ≤ 0x5A then some (b - 0x41)
  else if 0x61 ≤ b ∧ b ≤ 0x7A then some (b - 0x61 + 26)
  else if 0x81 ≤ b ∧ b ≤ 0xFE then some (b - 0x81 + 52)
  else none

/-- The further syllable of a code. -/
def furtherSyllable? (a b : Nat) : Option Char := do
  let column ← syllableColumn? b
  let index ←
    if 0x81 ≤ a ∧ a ≤ 0xA0 then some (178 * (a - 0x81) + column)
    else if 0xA1 ≤ a ∧ a ≤ 0xC6 ∧ column < 84 then some (178 * 32 + 84 * (a - 0xA1) + column)
    else none
  let common := commonSyllables
  if index + common.length < syllableCount then
    return Char.ofNat (nthFree index firstSyllable common)
  else none

/-- What stands at the front in the code with all syllables. -/
def cp949 : List UInt8 → Front :=
  doubleByte fun a b => (ksChar? a b).orElse fun _ => furtherSyllable? a b

/-! ### The code by parts -/

/-- A part of a syllable in five bits. -/
inductive Part where
  /-- No letter. -/
  | filler
  /-- The letter at a place. -/
  | letter (place : Nat)
  /-- No part. -/
  | invalid
  deriving DecidableEq, Repr

/-- The initial in five bits. -/
def initialPart (n : Nat) : Part :=
  if n = 1 then .filler else if 2 ≤ n ∧ n ≤ 20 then .letter (n - 2) else .invalid

/-- The vowel in five bits. -/
def vowelPart (n : Nat) : Part :=
  if n = 2 then .filler
  else if 3 ≤ n ∧ n ≤ 7 then .letter (n - 3)
  else if 10 ≤ n ∧ n ≤ 15 then .letter (n - 5)
  else if 18 ≤ n ∧ n ≤ 23 then .letter (n - 7)
  else if 26 ≤ n ∧ n ≤ 29 then .letter (n - 9)
  else .invalid

/-- The final in five bits. -/
def finalPart (n : Nat) : Part :=
  if n = 1 then .filler
  else if 2 ≤ n ∧ n ≤ 17 then .letter (n - 2)
  else if 19 ≤ n ∧ n ≤ 29 then .letter (n - 3)
  else .invalid

/-- The character with the given parts: a syllable, or a letter that stands alone. -/
def composed? : Part → Part → Part → Option Char
  | .filler, .filler, .filler => some '\u3000'
  | .filler, .filler, .letter f => finalLetters[f]?.map consonant
  | .filler, .letter v, .filler => some (vowel v)
  | .letter i, .filler, .filler => initialLetters[i]?.map consonant
  | .letter i, .letter v, .filler => some (syllable i v 0)
  | .letter i, .letter v, .letter f => some (syllable i v (f + 1))
  | _, _, _ => none

/-- The character of a code on the standard sheet that is no syllable. -/
def shiftedKsChar? (a b : Nat) : Option Char :=
  if a < 0xD9 ∨ a = 0xDF ∨ 0xF9 < a ∨ b < 0x31 ∨ (0x80 ≤ b ∧ b < 0x91) ∨ b % 0x80 = 0x7F
      ∨ (a = 0xDA ∧ 0xA1 ≤ b ∧ b ≤ 0xD3) then none
  else
    let row := if a < 0xE0 then 2 * (a - 0xD9) else 2 * a - 0x197
    let cell := if b < 0x91 then b - 0x31 else b - 0x43
    ksChar? (row + cell / 0x5E + 0xA1) (cell % 0x5E + 0xA1)

/-- What stands at the front in the code by parts. -/
def johab : List UInt8 → Front :=
  doubleByte fun a b =>
    if a < 0xD8 then
      composed? (initialPart (a / 4 % 32)) (vowelPart (8 * a % 32 + b / 32)) (finalPart (b % 32))
    else shiftedKsChar? a b

end Workflow.Charset
