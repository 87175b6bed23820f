import Workflow.Charset.Encoding
import Workflow.Decimal.Numeral
import Workflow.Fields
import Workflow.Text.Case

/-!
# Media types

A media type is followed by parameters, each behind a semicolon: a name, and behind `=` its value,
which may stand in quotes.  The value of a parameter may be spread over sections: `name*0`,
`name*1` and so on, those with a star at the end written with percent signs.  A value of which some
section is so written starts with its character set and its language, a tick behind each of them.

`declaredCharset` gives the name of the character set that a media type declares.
-/

namespace Workflow.Http

/-- Why a media type cannot be read. -/
inductive MediaTypeError where
  /-- Some sections of a value have numbers and others none; the kinds of the numbers of the first
  section that differs and of the very first one. -/
  | mixedSections (other first : String)
  /-- The number of a section is too long. -/
  | sectionNumber (e : Numeral.Error)
  /-- The character set of a value is none. -/
  | charset (e : Charset.Error)
  deriving DecidableEq, Repr

/-- The wording of an error. -/
def MediaTypeError.message : MediaTypeError → String
  | .mixedSections other first =>
    "'<' not supported between instances of '" ++ other ++ "' and '" ++ first ++ "'"
  | .sectionNumber e => e.message
  | .charset e => e.message

namespace MediaType

/-! ### Parameters -/

/-- The parts of a text between semicolons that stand outside of quotes.  `quoted` says whether the
text starts inside of quotes, and `escaped` whether its first character is escaped. -/
def partsFrom (quoted escaped : Bool) : List Char → List (List Char)
  | [] => [[]]
  | c :: cs =>
    if c == ';' && !quoted then [] :: partsFrom false false cs
    else
      match partsFrom (quoted != (c == '"' && !escaped)) (c == '\\') cs with
      | [] => [[c]]
      | p :: ps => (c :: p) :: ps

/-- The name and the value in a part; a name with a value is in lower case. -/
def readPart (part : List Char) : List Char × List Char :=
  match part.dropWhile (· != '=') with
  | [] => (Text.trim part, [])
  | _ :: value =>
    let name := String.ofList (Text.trim (part.takeWhile (· != '=')))
    (Text.trim (Text.lower name).toList, Text.trim value)

/-- A text with every escaped character of the given kind as itself. -/
def unescaped (escapedChar : Char) : List Char → List Char
  | [] => []
  | '\\' :: c :: cs =>
    if c == escapedChar then c :: unescaped escapedChar cs
    else '\\' :: unescaped escapedChar (c :: cs)
  | c :: cs => c :: unescaped escapedChar cs

/-- The characters between an opening and a closing one, if they stand around all others. -/
def between? (opening closing : Char) (cs : List Char) : Option (List Char) :=
  match cs with
  | c :: rest =>
    if c == opening && rest.getLast? == some closing then some rest.dropLast else none
  | [] => none

/-- A value without the quotes or angle brackets around it. -/
def unquoted (cs : List Char) : List Char :=
  match between? '"' '"' cs with
  | some inner => unescaped '"' (unescaped '\\' inner)
  | none => (between? '<' '>' cs).getD cs

/-! ### Sections -/

/-- A section of a value. -/
structure Section where
  /-- The number, if it has one. -/
  number : Option Nat
  /-- The text. -/
  text : List Char
  /-- Whether the text is written with percent signs. -/
  isEncoded : Bool
  deriving DecidableEq, Repr

/-- Whether a character may stand in the name of a parameter with sections. -/
def isWordChar (c : Char) : Bool := c.isAlphanum || c == '_'

/-- The name of the parameter and the digits of the number in the name of a section. -/
def sectionName? (name : List Char) : Option (List Char × List Char) :=
  let word := name.takeWhile isWordChar
  match word, name.dropWhile isWordChar with
  | _ :: _, '*' :: rest =>
    let digits := rest.takeWhile Char.isDigit
    match digits, rest.dropWhile Char.isDigit with
    | _, [] => some (word, digits)
    | _ :: _, ['*'] => some (word, digits)
    | _, _ => none
  | _, _ => none

/-- The section with the given digits. -/
def sectionOf (digits name value : List Char) : Except MediaTypeError Section :=
  let isEncoded := name.getLast? == some '*'
  if digits.isEmpty then .ok ⟨none, value, isEncoded⟩
  else if Numeral.digitLimit < digits.length then
    .error (.sectionNumber (.tooManyDigits digits.length))
  else .ok ⟨some (Text.digitsValue digits), value, isEncoded⟩

/-- Whether a section comes in front of another, or is equal to it. -/
def Section.isUpTo (a b : Section) : Bool :=
  if a.number != b.number then a.number.getD 0 ≤ b.number.getD 0
  else if a.text != b.text then a.text < b.text
  else !a.isEncoded || b.isEncoded

/-- What messages call the kind of a section's number. -/
def Section.numberKind (s : Section) : String := if s.number.isSome then "int" else "NoneType"

/-- Sections in order. -/
def ordered (sections : List Section) : Except MediaTypeError (List Section) :=
  match sections with
  | [] => .ok []
  | first :: others =>
    match others.find? fun s => s.number.isSome != first.number.isSome with
    | some other => .error (.mixedSections other.numberKind first.numberKind)
    | none => .ok (sections.mergeSort Section.isUpTo)

/-- A text written with percent signs; each pair of digits is the number of a character. -/
def percentDecoded : List Char → List Char
  | '%' :: a :: b :: cs =>
    match Hex.digitValue? a, Hex.digitValue? b with
    | some h, some l => Char.ofNat (16 * h + l) :: percentDecoded cs
    | _, _ => '%' :: percentDecoded (a :: b :: cs)
  | c :: cs => c :: percentDecoded cs
  | [] => []

/-- The text of a section. -/
def Section.plain (s : Section) : List Char := if s.isEncoded then percentDecoded s.text else s.text

/-! ### Values -/

/-- The value of a parameter. -/
structure ParameterValue where
  /-- The character set in which it is written, where that is part of the value. -/
  charset : Option String := none
  /-- The text. -/
  text : List Char
  deriving DecidableEq, Repr

/-- The value at the front of which its character set and its language stand. -/
def ofTicks (cs : List Char) : ParameterValue :=
  let behindFirst := (cs.dropWhile (· != '\'')).drop 1
  match behindFirst.dropWhile (· != '\'') with
  | [] => ⟨some "", cs⟩
  | _ :: text => ⟨some (String.ofList (cs.takeWhile (· != '\''))), text⟩

/-- The value that sections make up. -/
def ofSections (sections : List Section) : Except MediaTypeError ParameterValue := do
  let sorted ← ordered sections
  let text := sorted.flatMap Section.plain
  return if sorted.any (·.isEncoded) then ofTicks text else { text }

/-- What has been read of parameters: those with one value, and the sections of the others. -/
structure Parameters where
  /-- The parameters with one value. -/
  whole : List (String × ParameterValue)
  /-- The sections of the others by name. -/
  sections : List (String × List Section) := []

/-- Adds a parameter. -/
def Parameters.add (ps : Parameters) (part : List Char) : Except MediaTypeError Parameters := do
  let (name, raw) := readPart part
  let value := unquoted raw
  match sectionName? name with
  | none => return { ps with whole := ps.whole ++ [(String.ofList name, { text := value })] }
  | some (word, digits) =>
    let key := String.ofList word
    let earlier := (Fields.get? ps.sections key).getD []
    let next ← sectionOf digits name value
    return { ps with sections := Fields.put ps.sections key (earlier ++ [next]) }

/-- The parameters of a media type, which itself counts as the first one. -/
def parameters (s : String) : Except MediaTypeError (List (String × ParameterValue)) := do
  match partsFrom false false s.toList with
  | [] => return []
  | first :: others =>
    let (name, raw) := readPart first
    let start : Parameters := ⟨[(String.ofList name, { text := unquoted raw })], []⟩
    let ps ← others.foldlM Parameters.add start
    let spread ← ps.sections.mapM fun (name, sections) => do return (name, ← ofSections sections)
    return ps.whole ++ spread

/-! ### The character set -/

/-- The bytes of a text: a character beyond the first 256 is written by its number. -/
def rawBytes (cs : List Char) : List UInt8 :=
  cs.flatMap fun c =>
    if c.toNat < 0x100 then [c.toNat.toUInt8]
    else Utf8.encode (String.ofList (Quoted.codeEscape c.toNat))

/-- A name without a character set is written in this one. -/
def standardCharset : String := "us-ascii"

/-- The text of a value. -/
def ParameterValue.decoded (v : ParameterValue) : Except MediaTypeError String :=
  let plain := String.ofList v.text
  match v.charset with
  | none => .ok plain
  | some charset => do
    let name := if charset.isEmpty then standardCharset else charset
    let found ← (Charset.Encoding.ofName? name).mapError .charset
    return (found.bind fun e => e.exact (rawBytes v.text)).getD plain

end MediaType

/-- The name of the character set that a media type declares, in lower case. -/
def declaredCharset (s : String) : Except MediaTypeError (Option String) := do
  match (← MediaType.parameters s).find? fun (name, _) => Text.lower name == "charset" with
  | none => return none
  | some (_, v) =>
    let name ← v.decoded
    return if name.toList.all fun c => c.toNat < 0x80 then some (Text.lower name) else none

end Workflow.Http
