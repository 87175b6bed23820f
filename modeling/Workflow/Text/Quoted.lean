import Workflow.Text.Hex
import Workflow.Text.Printable

/-!
# Quoted text

Texts and byte strings as they are shown in messages: in single quotes, or in double quotes where
that saves escapes; a character that is not printable is shown by its code.
-/

namespace Workflow.Quoted

/-- The lower-case hexadecimal digits of a number, at least `width` of them. -/
def hexCode (width n : Nat) : List Char :=
  let cs := Nat.toDigits 16 n
  List.replicate (width - cs.length) '0' ++ cs

/-- The quote for a content: double quotes where it holds single quotes and no double ones. -/
def quoteFor (cs : List Char) : Char := if cs.contains '\'' && !cs.contains '"' then '"' else '\''

/-- The escape of a character that has a short one under the given quote. -/
def shortEscape? (quote c : Char) : Option (List Char) :=
  if c == quote || c == '\\' then some ['\\', c]
  else if c == '\n' then some ['\\', 'n']
  else if c == '\r' then some ['\\', 'r']
  else if c == '\t' then some ['\\', 't']
  else none

/-- The escape of a code point: two, four or eight digits. -/
def codeEscape (n : Nat) : List Char :=
  if n < 0x100 then '\\' :: 'x' :: hexCode 2 n
  else if n < 0x10000 then '\\' :: 'u' :: hexCode 4 n
  else '\\' :: 'U' :: hexCode 8 n

/-- A character of quoted text. -/
def escapeChar (quote c : Char) : List Char :=
  match shortEscape? quote c with
  | some cs => cs
  | none => if Text.isPrintable c then [c] else codeEscape c.toNat

/-- A text in quotes. -/
def ofChars (cs : List Char) : List Char :=
  let quote := quoteFor cs
  quote :: (cs.flatMap (escapeChar quote) ++ [quote])

/-- A text in quotes. -/
def text (s : String) : String := String.ofList (ofChars s.toList)

/-- A byte string in quotes, behind the mark `b`; bytes outside printable ASCII are shown by their
codes. -/
def bytes (b : List UInt8) : String :=
  let cs := b.map fun n => Char.ofNat n.toNat
  let quote := quoteFor cs
  let escape (c : Char) : List Char :=
    match shortEscape? quote c with
    | some cs => cs
    | none => if 0x20 ≤ c.toNat && c.toNat < 0x7F then [c] else codeEscape c.toNat
  String.ofList ('b' :: quote :: (cs.flatMap escape ++ [quote]))

end Workflow.Quoted
