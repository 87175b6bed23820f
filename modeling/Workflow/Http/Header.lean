import Workflow.Charset.Encoding
import Workflow.Text.Case
import Workflow.Value.Display

/-!
# Headers

The headers of a response are names and values in bytes.  Texts are taken as headers if they are
ASCII.  When headers are read, all of them are taken for the first of ASCII, UTF-8 and Latin-1 that
fits all of them.
-/

namespace Workflow.Http

/-- Why a value holds no headers. -/
inductive HeaderError where
  /-- The value is no sequence of headers. -/
  | notIterable (kind : String)
  /-- A header is no pair but of the given kind. -/
  | notAPair (kind : String)
  /-- A header has too few parts. -/
  | tooFewParts (count : Nat)
  /-- A header has too many parts. -/
  | tooManyParts
  /-- The name of a header is no text. -/
  | badName (kind : String)
  /-- The value of a header is no text. -/
  | badValue (kind : String)
  /-- A text is not ASCII. -/
  | notAscii (text : String)
  deriving DecidableEq, Repr

/-- Whether a character is ASCII. -/
def isAscii (c : Char) : Bool := c.toNat < 0x80

/-- What messages call the characters of a text that are not ASCII and stand in a row first. -/
def strangers (cs : List Char) : String :=
  let start := (cs.takeWhile isAscii).length
  match (cs.dropWhile isAscii).takeWhile (!isAscii ·) with
  | [c] => "character '" ++ String.ofList (Quoted.codeEscape c.toNat) ++ "' in position "
      ++ toString start
  | found => "characters in position " ++ toString start ++ "-"
      ++ toString (start + found.length - 1)

/-- The wording of an error. -/
def HeaderError.message : HeaderError → String
  | .notIterable kind => "'" ++ kind ++ "' object is not iterable"
  | .notAPair kind => "cannot unpack non-iterable " ++ kind ++ " object"
  | .tooFewParts count =>
    "not enough values to unpack (expected 2, got " ++ toString count ++ ")"
  | .tooManyParts => "too many values to unpack (expected 2)"
  | .badName kind => "'" ++ kind ++ "' object has no attribute 'encode'"
  | .badValue kind => "Header value must be str or bytes, not <class '" ++ kind ++ "'>"
  | .notAscii s =>
    "'ascii' codec can't encode " ++ strangers s.toList ++ ": ordinal not in range(128)"

/-- Headers in order. -/
structure Headers where
  /-- The names and values. -/
  fields : List (List UInt8 × List UInt8)
  deriving DecidableEq, Repr

namespace Headers

/-! ### Forming headers -/

/-- The bytes of an ASCII text. -/
def asciiBytes (s : String) : Except HeaderError (List UInt8) :=
  if s.toList.all isAscii then .ok (Utf8.encode s) else .error (.notAscii s)

/-- The name of a header. -/
def nameOf : Value → Except HeaderError (List UInt8)
  | .bytes bs => .ok bs
  | .text s => asciiBytes s
  | v => .error (.badName v.kindName)

/-- The value of a header. -/
def valueOf : Value → Except HeaderError (List UInt8)
  | .bytes bs => .ok bs
  | .text s => asciiBytes s
  | v => .error (.badValue v.kindPath)

/-- A header with the given name and value. -/
def fieldOf (name value : Value) : Except HeaderError (List UInt8 × List UInt8) := do
  let n ← nameOf name
  let v ← valueOf value
  return (n, v)

/-- The header that a pair is. -/
def fieldOfPair (v : Value) : Except HeaderError (List UInt8 × List UInt8) :=
  match v.elements? with
  | some [name, value] => fieldOf name value
  | some parts => .error (if parts.length < 2 then .tooFewParts parts.length else .tooManyParts)
  | none => .error (.notAPair v.kindName)

/-- The headers that a value holds: a record, pairs in a row, or nothing. -/
def ofValue : Value → Except HeaderError Headers
  | .null => .ok ⟨[]⟩
  | .record fs => (fs.mapM fun (name, v) => fieldOf (.text name) v).map Headers.mk
  | .table rows => (rows.mapM fun (name, v) => fieldOf name v).map Headers.mk
  | v =>
    match v.elements? with
    | some items => (items.mapM fieldOfPair).map Headers.mk
    | none => .error (.notIterable v.kindName)

/-! ### Reading headers -/

/-- Whether all names and values are written in a character set. -/
def areIn (h : Headers) (encoding : Charset.Encoding) : Bool :=
  h.fields.all fun (name, v) => (encoding.exact name).isSome && (encoding.exact v).isSome

/-- The character set of the names and values. -/
def encoding (h : Headers) : Charset.Encoding :=
  ([Charset.Encoding.ascii, .utf8].find? h.areIn).getD .latin1

/-- The values of a name, which is in lower case. -/
def values (h : Headers) (name : String) : List String :=
  let key := Utf8.encode name
  let found := h.fields.filter fun (n, _) => n.map Text.lowerByte == key
  found.map fun (_, v) => (h.encoding.exact v).getD ""

/-- The value of a name, which is in lower case; several values are joined. -/
def get? (h : Headers) (name : String) : Option String :=
  match h.values name with
  | [] => none
  | found => some (", ".intercalate found)

end Headers

end Workflow.Http
