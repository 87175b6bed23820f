import Workflow.Charset.Front
import Workflow.Charset.Sheet.Jis

/-!
# Japanese codes

The codes write the sheets of the Japanese standards in different ways: with both bytes raised, or
with rows in pairs so that letters of half width keep a byte of their own.
-/

namespace Workflow.Charset

/-! ### Characters on the sheets -/

/-- The letter of half width that a byte stands for. -/
def halfWidth? (b : Nat) : Option Char :=
  if 0xA1 ≤ b ∧ b ≤ 0xDF then some (Char.ofNat (0xFEC0 + b)) else none

/-- The character of a byte in the national variant of ASCII. -/
def nationalChar (b : Nat) : Char :=
  if b = 0x5C then '¥' else if b = 0x7E then '‾' else Char.ofNat b

/-- The editions of the extended standard. -/
inductive Edition where
  /-- The edition of 2000. -/
  | first
  /-- The edition of 2004. -/
  | second
  deriving DecidableEq, Repr

/-- The places of the extended standard with two characters. -/
def jisPairs : List ((Nat × Nat) × List Char) := [
  ((0x24, 0x77), ['\u304b', '\u309a']), ((0x24, 0x78), ['\u304d', '\u309a']),
  ((0x24, 0x79), ['\u304f', '\u309a']), ((0x24, 0x7A), ['\u3051', '\u309a']),
  ((0x24, 0x7B), ['\u3053', '\u309a']), ((0x25, 0x77), ['\u30ab', '\u309a']),
  ((0x25, 0x78), ['\u30ad', '\u309a']), ((0x25, 0x79), ['\u30af', '\u309a']),
  ((0x25, 0x7A), ['\u30b1', '\u309a']), ((0x25, 0x7B), ['\u30b3', '\u309a']),
  ((0x25, 0x7C), ['\u30bb', '\u309a']), ((0x25, 0x7D), ['\u30c4', '\u309a']),
  ((0x25, 0x7E), ['\u30c8', '\u309a']), ((0x26, 0x78), ['\u31f7', '\u309a']),
  ((0x2B, 0x44), ['\u00e6', '\u0300']), ((0x2B, 0x48), ['\u0254', '\u0300']),
  ((0x2B, 0x49), ['\u0254', '\u0301']), ((0x2B, 0x4A), ['\u028c', '\u0300']),
  ((0x2B, 0x4B), ['\u028c', '\u0301']), ((0x2B, 0x4C), ['\u0259', '\u0300']),
  ((0x2B, 0x4D), ['\u0259', '\u0301']), ((0x2B, 0x4E), ['\u025a', '\u0300']),
  ((0x2B, 0x4F), ['\u025a', '\u0301']), ((0x2B, 0x65), ['\u02e9', '\u02e5']),
  ((0x2B, 0x66), ['\u02e5', '\u02e9'])]

/-- The places that the second edition fills. -/
def laterPlaces : List (Nat × Nat) := [
  (0x2E, 0x21), (0x2F, 0x7E), (0x4F, 0x54), (0x4F, 0x7E), (0x74, 0x27), (0x7E, 0x7A),
  (0x7E, 0x7B), (0x7E, 0x7C), (0x7E, 0x7D), (0x7E, 0x7E)]

/-- The characters at a place of the first sheet of the extended standard. -/
def extended? (edition : Edition) (row cell : Nat) : Option (List Char) :=
  if edition = .first ∧ laterPlaces.contains (row, cell) then none
  else match jisPairs.lookup (row, cell) with
    | some cs => some cs
    | none => (charIn? [.jisX0208, .jisX0213] row cell).map ([·])

/-- The characters at such a place in the codes that have a tilde of full width in no place. -/
def narrowExtended? (edition : Edition) (row cell : Nat) : Option (List Char) :=
  if row = 0x22 ∧ cell = 0x32 then some ['~'] else extended? edition row cell

/-- The character at a place of the second sheet of the extended standard. -/
def extendedSecond? (edition : Edition) (row cell : Nat) : Option Char :=
  if edition = .first ∧ row = 0x7D ∧ cell = 0x3B then some '鬝'
  else Sheet.jisX0213Second.char? row cell

/-- Two bytes for a place of the first sheet of the extended standard with the given characters.  A
place that the other edition fills takes both bytes with it. -/
def extendedFront (edition : Edition) (row cell : Nat) (cs? : Option (List Char)) : Front :=
  match cs? with
  | some cs => .chars cs 2
  | none => .flawed (if edition = .first ∧ laterPlaces.contains (row, cell) then 2 else 1)

/-- The byte of a row or column without its raised bit; zero if it is not raised. -/
def lowered (b : UInt8) : Nat := b.toNat - 0x80

/-! ### Raised bytes -/

/-- What stands at the front in a code of raised bytes, given what two bytes mean and what two bytes
behind the sign for further sheets mean. -/
def raised (first second : Nat → Nat → Front) : List UInt8 → Front
  | [] => .short
  | a :: rest =>
    if a < 0x80 then .char (Char.ofNat a.toNat) 1
    else match rest with
      | [] => .short
      | b :: more =>
        if a = 0x8E then .ofChar? (halfWidth? b.toNat) 2
        else if a = 0x8F then
          match more with
          | [] => .short
          | c :: _ => second (lowered b) (lowered c)
        else first (lowered a) (lowered b)

/-- What stands at the front in the code of the first standards. -/
def eucJp : List UInt8 → Front :=
  raised (fun row cell => .ofChar? (Sheet.jisX0208.char? row cell) 2)
    (fun row cell => .ofChar? (Sheet.jisX0212.char? row cell) 3)

/-- What stands at the front in the code of the extended standard. -/
def eucJis (edition : Edition) : List UInt8 → Front :=
  raised (fun row cell => extendedFront edition row cell (extended? edition row cell))
    (fun row cell => .ofChar? ((extendedSecond? edition row cell).orElse
      fun _ => Sheet.jisX0212.char? row cell) 3)

/-! ### Rows in pairs -/

/-- The row in all sheets one behind the other, counted from zero, and the column of two bytes of a
code with rows in pairs. -/
def pairedPlace? (a b : Nat) : Option (Nat × Nat) :=
  if b < 0x40 ∨ b = 0x7F ∨ 0xFC < b then none
  else
    let pair := if a < 0xE0 then a - 0x81 else a - 0xC1
    let cell := if b < 0x80 then b - 0x40 else b - 0x41
    some (2 * pair + cell / 0x5E, cell % 0x5E + 0x21)

/-- Whether a byte begins a code of two bytes with rows in pairs. -/
def opensPair (a : Nat) : Bool := (0x81 ≤ a && a ≤ 0x9F) || (0xE0 ≤ a && a ≤ 0xFC)

/-- What stands at the front in a code with rows in pairs, given the characters of bytes below 0x80
and what two bytes mean. -/
def paired (single : Nat → Char) (double : Nat → Nat → Front) : List UInt8 → Front
  | [] => .short
  | a :: rest =>
    if a < 0x80 then .char (single a.toNat) 1
    else match halfWidth? a.toNat with
      | some c => .char c 1
      | none =>
        if opensPair a.toNat then
          match rest with
          | [] => .short
          | b :: _ => double a.toNat b.toNat
        else .flawed 1

/-- The character of two bytes on the first standard sheet with rows in pairs. -/
def pairedJis? (a b : Nat) : Option Char := do
  let (row, cell) ← pairedPlace? a b
  Sheet.jisX0208.char? (row + 0x21) cell

/-- What stands at the front in the code of the first standard with rows in pairs. -/
def shiftJis : List UInt8 → Front := paired Char.ofNat fun a b => .ofChar? (pairedJis? a b) 2

/-- The row of the second sheet that follows the first one in a code with rows in pairs. -/
def secondRow (n : Nat) : Nat :=
  if 0x67 ≤ n then n + 0x07 else if 0x63 ≤ n ∨ n = 0x5F then n - 0x37 else n - 0x3D

/-- What two bytes mean on the sheets of the extended standard with rows in pairs. -/
def pairedExtended (edition : Edition) (a b : Nat) : Front :=
  match pairedPlace? a b with
  | none => .flawed 1
  | some (row, cell) =>
    if row = 0 ∧ cell = 0x40 then .char '\\' 2
    else if row < 0x5E then
      extendedFront edition (row + 0x21) cell (narrowExtended? edition (row + 0x21) cell)
    else .ofChar? (extendedSecond? edition (secondRow row) cell) 2

/-- What stands at the front in the code of the extended standard with rows in pairs. -/
def shiftJisX (edition : Edition) : List UInt8 → Front :=
  paired nationalChar (pairedExtended edition)

/-- The character of two bytes in a vendor's code: its own, a standard one, or a private one. -/
def vendorChar? (a b : Nat) : Option Char :=
  if 0xF0 ≤ a ∧ a ≤ 0xF9 then
    (pairedPlace? a b).map fun _ =>
      Char.ofNat (0xE000 + 188 * (a - 0xF0) + (if b < 0x80 then b - 0x40 else b - 0x41))
  else
    (Sheet.vendorJis.char? a b).orElse fun _ =>
      if 0xEA < a then none else pairedJis? a b

/-- The private characters of single bytes in a vendor's code. -/
def vendorSingle? (a : Nat) : Option Char :=
  if a = 0x80 then some '\x80'
  else if a = 0xA0 then some (Char.ofNat 0xF8F0)
  else if 0xFD ≤ a then some (Char.ofNat (0xF8F1 + (a - 0xFD)))
  else none

/-- What stands at the front in a vendor's code with rows in pairs. -/
def cp932 (bytes : List UInt8) : Front :=
  match bytes.head?.bind fun a => vendorSingle? a.toNat with
  | some c => .char c 1
  | none => paired Char.ofNat (fun a b => .ofChar? (vendorChar? a b) 2) bytes

end Workflow.Charset
