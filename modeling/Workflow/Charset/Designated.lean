import Workflow.Charset.Japanese
import Workflow.Charset.Korean
import Workflow.Charset.Page
import Workflow.Charset.Sheet.Gb

/-!
# Codes with designations

Escape sequences designate sheets of seven-bit codes.  One sheet is in use at a time; in some codes
two control characters shift to a second one and back, and in one code a third one is used for
single characters.
-/

namespace Workflow.Charset

/-! ### Designations -/

/-- What can be designated. -/
inductive Designation where
  | ascii
  | roman
  | kana
  | jis
  | jisSupplement
  | extended (edition : Edition)
  | extendedSecond
  | korean
  | chinese
  | latin
  | greek
  deriving DecidableEq, Repr

/-- The number of bytes of a character. -/
def Designation.width : Designation → Nat
  | .ascii | .roman | .kana | .latin | .greek => 1
  | _ => 2

/-- The characters of two bytes, or of one byte and zero; only sheets have any, Latin and Greek
being used for single characters only. -/
def Designation.chars? (d : Designation) (a b : Nat) : Option (List Char) :=
  match d with
  | .ascii => some [Char.ofNat a]
  | .roman => some [nationalChar a]
  | .kana => (halfWidth? (a + 0x80)).map ([·])
  | .jis => (Sheet.jisX0208.char? a b).map ([·])
  | .jisSupplement => (Sheet.jisX0212.char? a b).map ([·])
  | .extended edition => narrowExtended? edition a b
  | .extendedSecond => (extendedSecond? .second a b).map ([·])
  | .korean => (ksChar? (a + 0x80) (b + 0x80)).map ([·])
  | .chinese => (Sheet.gb2312.char? (a + 0x80) (b + 0x80)).map ([·])
  | .latin => none
  | .greek => none

/-- How escape sequences name a designation: their last byte, and whether it is for two bytes. -/
abbrev Mark := UInt8 × Bool

/-- A code with designations. -/
structure Scheme where
  /-- What can be designated beside ASCII. -/
  designations : List (Mark × Designation)
  /-- Whether control characters shift to the second sheet and back. -/
  shifts : Bool := false
  /-- Whether single characters of the third sheet are used. -/
  singles : Bool := false
  /-- Whether a revision may be announced in front of a designation. -/
  revisions : Bool := true

/-- The mark of ASCII. -/
def asciiMark : Mark := (0x42, false)

/-- What a mark designates. -/
def Scheme.designation? (scheme : Scheme) (mark : Mark) : Option Designation :=
  if mark == asciiMark then some .ascii else scheme.designations.lookup mark

/-- Designations that most codes have. -/
def jisMarks : List (Mark × Designation) := [((0x42, true), .jis)]

/-- Further designations of the older codes. -/
def oldMarks : List (Mark × Designation) := [((0x4A, false), .roman), ((0x40, true), .jis)]

/-- The designation of the supplementary sheet. -/
def supplementMarks : List (Mark × Designation) := [((0x44, true), .jisSupplement)]

namespace Scheme

/-- The Korean code. -/
def korean : Scheme :=
  { designations := [((0x43, true), .korean)], shifts := true, revisions := false }

/-- The first Japanese code. -/
def japanese : Scheme := { designations := jisMarks ++ oldMarks }

/-- The Japanese code with the supplementary sheet. -/
def japanese1 : Scheme := { designations := jisMarks ++ supplementMarks ++ oldMarks }

/-- The Japanese code with characters of other countries. -/
def japanese2 : Scheme :=
  { designations := jisMarks ++ supplementMarks ++ oldMarks
      ++ [((0x43, true), .korean), ((0x41, true), .chinese), ((0x41, false), .latin),
        ((0x46, false), .greek)]
    singles := true }

/-- The Japanese code with the extended standard of 2000. -/
def japanese3 : Scheme :=
  { designations := jisMarks
      ++ [((0x4F, true), .extended .first), ((0x50, true), .extendedSecond)] }

/-- The Japanese code with the extended standard of 2004. -/
def japanese2004 : Scheme :=
  { designations := jisMarks
      ++ [((0x51, true), .extended .second), ((0x50, true), .extendedSecond)] }

/-- The Japanese code with letters of half width. -/
def japaneseKana : Scheme :=
  { designations := jisMarks ++ supplementMarks ++ oldMarks ++ [((0x49, false), .kana)] }

end Scheme

/-! ### Reading -/

/-- What is designated and in use. -/
structure Shift where
  /-- The first sheet. -/
  first : Designation := .ascii
  /-- The second sheet. -/
  second : Designation := .ascii
  /-- The sheet for single characters. -/
  third : Designation := .ascii
  /-- Whether the second sheet is in use. -/
  shifted : Bool := false
  /-- Whether an escape sequence of another kind goes on. -/
  escaping : Bool := false

/-- The escape character. -/
def escape : UInt8 := 0x1B

/-- Whether a byte ends an escape sequence. -/
def endsEscape (b : UInt8) : Bool := (0x41 ≤ b && b ≤ 0x5A) || b == 0x40

/-- Whether a byte behind the escape character begins a designation. -/
def opensDesignation (b : UInt8) : Bool := [0x28, 0x29, 0x24, 0x2E, 0x26].contains b

/-- The greatest length of an escape sequence. -/
def escapeLimit : Nat := 16

/-- The index of the byte that ends an escape sequence, looked for from an index on; a revision sign
and two bytes behind it are passed over.  `none` if the bytes end first, and `some none` if the
sequence is too long. -/
def escapeEnd (revisions : Bool) (steps i : Nat) (bytes : List UInt8) : Option (Option Nat) :=
  match steps with
  | 0 => some none
  | steps + 1 =>
    if escapeLimit ≤ i then some none
    else match bytes.drop i with
      | [] => none
      | b :: rest =>
        if endsEscape b then some (some i)
        else if revisions && b == 0x26 && rest.head? == some 0x40 then
          escapeEnd revisions steps (i + 3) bytes
        else escapeEnd revisions steps (i + 1) bytes

/-- The sheets of a shift. -/
inductive Slot where
  | first
  | second
  | third
  deriving DecidableEq, Repr

/-- Designates a sheet. -/
def Shift.designate (s : Shift) (slot : Slot) (d : Designation) : Shift :=
  match slot with
  | .first => { s with first := d }
  | .second => { s with second := d }
  | .third => { s with third := d }

/-- The slot and the mark in a whole escape sequence. -/
def Scheme.slotOf? (scheme : Scheme) : List UInt8 → Option (Slot × Mark)
  | [_, a, b] =>
    if a = 0x24 then some (.first, (b, true))
    else if a = 0x28 then some (.first, (b, false))
    else if a = 0x29 then some (.second, (b, false))
    else if a = 0x2E ∧ scheme.singles then some (.third, (b, false))
    else none
  | [_, a, b, c] =>
    if a = 0x24 ∧ b = 0x28 then some (.first, (c, true))
    else if a = 0x24 ∧ b = 0x29 then some (.second, (c, true))
    else none
  | [_, _, _, a, b, c] =>
    if scheme.revisions ∧ a = escape ∧ b = 0x24 ∧ c = 0x42 then some (.first, (c, true)) else none
  | _ => none

/-- What stands at the front where an escape sequence for a designation begins. -/
def Scheme.designating (scheme : Scheme) (s : Shift) (bytes : List UInt8) : Front × Shift :=
  match escapeEnd scheme.revisions escapeLimit 1 bytes with
  | none => (.short, s)
  | some none => (.flawed 1, s)
  | some (some i) =>
    match scheme.slotOf? (bytes.take (i + 1)) with
    | none => (.flawed (i + 1), s)
    | some (slot, mark) =>
      match scheme.designation? mark with
      | none => (.flawed (i + 1), s)
      | some d => (.chars [] (i + 1), s.designate slot d)

/-- The single character of the third sheet for a byte. -/
def Shift.single? (s : Shift) (b : UInt8) : Option Char :=
  if 0x80 ≤ b then none
  else match s.third with
    | .latin => some (Char.ofNat (b.toNat + 0x80))
    | .greek => (Page.ofName? "iso8859_7").bind fun page => page.char? (b + 0x80)
    | _ => some (Char.ofNat b.toNat)

/-- What stands at the front where the escape character does. -/
def Scheme.escaped (scheme : Scheme) (s : Shift) (bytes : List UInt8) : Front × Shift :=
  match bytes with
  | _ :: a :: rest =>
    if opensDesignation a then scheme.designating s bytes
    else if scheme.singles ∧ a = 0x4E then
      match rest with
      | [] => (.short, s)
      | b :: _ =>
        match s.single? b with
        | some c => (.char c 3, s)
        | none => (.flawed 3, s)
    else (.char (Char.ofNat escape.toNat) 1, { s with escaping := true })
  | _ => (.short, s)

/-- What stands at the front where a character of the sheet in use does. -/
def Shift.used (s : Shift) (bytes : List UInt8) : Front :=
  let d := if s.shifted then s.second else s.first
  let read := bytes.take d.width
  if read.length < d.width then .short
  else match d.chars? ((read[0]?.getD 0).toNat) ((read[1]?.getD 0).toNat) with
    | some cs => .chars cs d.width
    | none => .flawed d.width

/-- What stands at the front in a code with designations. -/
def Scheme.front (scheme : Scheme) (s : Shift) (bytes : List UInt8) : Front × Shift :=
  match bytes with
  | [] => (.short, s)
  | a :: _ =>
    let plain : Front := .char (Char.ofNat a.toNat) 1
    if s.escaping then (plain, { s with escaping := !endsEscape a })
    else if a = escape then scheme.escaped s bytes
    else if a = 0x0F ∧ scheme.shifts then (.chars [] 1, { s with shifted := false })
    else if a = 0x0E ∧ scheme.shifts then (.chars [] 1, { s with shifted := true })
    else if a = 0x0A then (plain, { s with shifted := false })
    else if a < 0x20 then (plain, s)
    else if 0x80 ≤ a then (.flawed 1, s)
    else (s.used bytes, s)

end Workflow.Charset
