import Workflow.Place
import Workflow.Text.Quoted
import Workflow.Text.Utf8

/-!
# What can be wrong with a JSON text
-/

namespace Workflow.Json

/-- A breach of the JSON grammar. -/
inductive Problem where
  | invalidCharacter
  | invalidNumber
  | keyNotText
  | missingColon
  | missingCommaInObject
  | missingCommaInArray
  | trailingCommaInObject
  | trailingCommaInArray
  | trailingCharacters
  | unknownEscape
  | badCodeUnit
  | loneSurrogate
  | missingSurrogate
  deriving DecidableEq, Repr

/-- The wording of a breach. -/
def Problem.message : Problem → String
  | .invalidCharacter => "invalid character"
  | .invalidNumber => "invalid number"
  | .keyNotText => "object keys must be strings"
  | .missingColon => "expected ':'"
  | .missingCommaInObject => "expected ',' or '\x7d'"
  | .missingCommaInArray => "expected ',' or ']'"
  | .trailingCommaInObject => "trailing comma in object"
  | .trailingCommaInArray => "trailing comma in array"
  | .trailingCharacters => "trailing characters"
  | .unknownEscape => "invalid escape character in string"
  | .badCodeUnit => "invalid character in unicode escape"
  | .loneSurrogate => "invalid utf-16 surrogate pair"
  | .missingSurrogate => "unexpected end of escaped utf-16 surrogate pair"

/-- Why a text is no JSON value. -/
inductive Error where
  /-- The text ends too early. -/
  | truncated
  /-- The text breaks the grammar; `byte` is the number of bytes read. -/
  | malformed (problem : Problem) (byte : Nat)
  /-- A number lies beyond the floating-point range. -/
  | numberOutOfRange (place : Place)
  /-- An integer has too many digits. -/
  | integerOutOfRange (place : Place)
  /-- The bytes of a text are not UTF-8. -/
  | undecodable (flaw : Utf8.Flaw)
  /-- Too many arrays and objects stand in each other. -/
  | tooDeep
  deriving DecidableEq, Repr

/-- The wording of an encoding flaw. -/
def flawMessage (flaw : Utf8.Flaw) : String :=
  let subject :=
    if flaw.stop ≤ flaw.start + 1 then
      "byte 0x" ++ String.ofList (Quoted.hexCode 2 flaw.byte.toNat) ++ " in position "
        ++ toString flaw.start
    else "bytes in position " ++ toString flaw.start ++ "-" ++ toString (flaw.stop - 1)
  "'utf-8' codec can't decode " ++ subject ++ ": " ++ flaw.reason

/-- The wording of an error. -/
def Error.message : Error → String
  | .truncated => "Input data was truncated"
  | .malformed problem byte =>
    "JSON is malformed: " ++ problem.message ++ " (byte " ++ toString byte ++ ")"
  | .numberOutOfRange place => "Number out of range" ++ place.remark
  | .integerOutOfRange place => "Integer value out of range" ++ place.remark
  | .undecodable flaw => flawMessage flaw
  | .tooDeep => "maximum recursion depth exceeded while deserializing an object"

/-- Whether an error lies in the JSON text.  Bytes that are no text and values that lie too deep
stop the reader itself. -/
def Error.isInText : Error → Bool
  | .undecodable _ => false
  | .tooDeep => false
  | _ => true

end Workflow.Json
