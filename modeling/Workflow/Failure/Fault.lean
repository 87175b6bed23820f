import Workflow.Abi.Decoding
import Workflow.Compression.Flaw
import Workflow.Definition.Validation
import Workflow.Failure.Report
import Workflow.Http.Header
import Workflow.Http.MediaType
import Workflow.Json.Error
import Workflow.Value.Mapping

/-!
# Faults

A fault is something that goes wrong outside the rules of workflows: data that cannot be read, a
value of a wrong kind, or trouble that an outside service reports on its own account.
`Fault.message` words a fault and `Fault.kindName` names its kind.  A fault that shows values as
they come from outside is worded when its text is asked for, and then an integer in them may be too
long; `Fault.isWritable` says whether the fault has a text.
-/

namespace Workflow

/-- Something that goes wrong outside the rules of workflows. -/
inductive Fault where
  /-- A text is no JSON value. -/
  | json (e : Json.Error)
  /-- A value does not have a shape. -/
  | shape (m : Shape.Mismatch)
  /-- A text is no numeral. -/
  | numeral (e : Numeral.Error)
  /-- A text denotes no bytes. -/
  | hex (e : Hex.Error)
  /-- Values cannot be encoded. -/
  | encoding (e : Abi.EncodeError)
  /-- A payload cannot be decoded. -/
  | decoding (e : Abi.DecodeError)
  /-- A value denotes no map. -/
  | mapping (e : MappingError)
  /-- A value holds no headers. -/
  | header (e : Http.HeaderError)
  /-- A media type cannot be read. -/
  | mediaType (e : Http.MediaTypeError)
  /-- Bytes have no text in a character set. -/
  | charset (e : Charset.Error)
  /-- The content of a response cannot be decompressed. -/
  | content (flaw : Compression.Flaw)
  /-- Details do not fit a report. -/
  | misuse (m : Misuse)
  /-- An output key is written a second time. -/
  | keyTaken (key : String)
  /-- A key is not there. -/
  | missingKey (key : Value)
  /-- A value of the kind has no such member. -/
  | noMember (kind member : String)
  /-- A value of the kind is no sequence. -/
  | notIterable (kind : String)
  /-- A value of the kind cannot be searched as text. -/
  | notSearchable (kind : String)
  /-- Bytes stand where hexadecimal text is. -/
  | bytesForHex (bytes : List UInt8)
  /-- Values of the kinds have no order. -/
  | noOrder (operator left right : String)
  /-- Values of the kinds cannot be reckoned with. -/
  | noArithmetic (operator left right : String)
  /-- A value of the kind stands for no whole number. -/
  | notWhole (kind : String)
  /-- A value cannot be the body of a response. -/
  | badBody (kind : String)
  /-- A value is no sequence of texts. -/
  | notTexts
  /-- An item of a sequence is no text. -/
  | itemNotText (index : Nat) (kind : String)
  /-- A value of the kind cannot be a count. -/
  | notACount (kind : String)
  /-- A count is too large. -/
  | countTooLarge
  /-- There is no item at an index. -/
  | noItem
  /-- A key has no text in JSON. -/
  | unwritableKey
  /-- A text holds no bracket where one is looked for. -/
  | noBracket
  /-- An integer lies beyond the floating-point range. -/
  | integerTooLarge
  /-- The infinite number is taken for an integer. -/
  | infiniteInteger
  /-- What is no number is taken for an integer. -/
  | nanInteger
  /-- A text names no backend. -/
  | unknownBackend (name : Value)
  /-- The named backend is not at hand. -/
  | unsupportedBackend (name : Value)
  /-- A session does not allow a call target. -/
  | targetNotAllowed (target : String)
  /-- A service reports a fault of its own, with details. -/
  | reported (reporter : Reporter) (details : List Value)

/-- The wording of a fault, if it has one. -/
def Fault.message : Fault → String
  | .json e => e.message
  | .shape m => m.message
  | .numeral e => e.message
  | .hex e => e.message
  | .encoding e => e.message
  | .decoding e => e.message
  | .mapping e => e.message
  | .header e => e.message
  | .mediaType e => e.message
  | .charset e => e.message
  | .content flaw => flaw.message
  | .misuse m => m.message
  | .keyTaken key => Quoted.text ("Step output already recorded: " ++ key)
  | .missingKey key => key.shown
  | .noMember kind member => Quoted.text kind ++ " object has no attribute " ++ Quoted.text member
  | .notIterable kind => Quoted.text kind ++ " object is not iterable"
  | .notSearchable kind => "expected string or bytes-like object, got '" ++ kind ++ "'"
  | .bytesForHex bytes =>
    if bytes.length % 2 = 0 then "Value must be an instance of str"
    else "is_0x_prefixed requires text typed arguments. Got: " ++ Quoted.bytes bytes
  | .noOrder operator left right =>
    "'" ++ operator ++ "' not supported between instances of '" ++ left ++ "' and '" ++ right ++ "'"
  | .noArithmetic operator left right =>
    "unsupported operand type(s) for " ++ operator ++ ": '" ++ left ++ "' and '" ++ right ++ "'"
  | .notWhole kind =>
    "int() argument must be a string, a bytes-like object or a real number, not '" ++ kind ++ "'"
  | .badBody kind => "Unexpected type for 'content', <class '" ++ kind ++ "'>"
  | .notTexts => "can only join an iterable"
  | .itemNotText index kind =>
    "sequence item " ++ toString index ++ ": expected str instance, " ++ kind ++ " found"
  | .notACount kind => "'" ++ kind ++ "' object cannot be interpreted as an integer"
  | .countTooLarge => "cannot fit 'int' into an index-sized integer"
  | .noItem => "list index out of range"
  | .unwritableKey => "Only dicts with str-like or number-like keys are supported"
  | .noBracket => "substring not found"
  | .integerTooLarge => "int too large to convert to float"
  | .infiniteInteger => "cannot convert float infinity to integer"
  | .nanInteger => "cannot convert float NaN to integer"
  | .unknownBackend name => name.shown ++ " is not a valid BackendType"
  | .unsupportedBackend name => "Unsupported backend: " ++ name.plainText
  | .targetNotAllowed target => "TARGET_NOT_ALLOWED: " ++ target
  | .reported reporter details => reportText reporter details

/-- Whether a fault has a text. -/
def Fault.isWritable : Fault → Bool
  | .missingKey key => key.isWritable
  | .unknownBackend name => name.isWritable
  | .unsupportedBackend name => name.isWritable
  | .reported reporter details => areReportable reporter details
  | _ => true

/-- Whether a fault arose in the exchange with an HTTP server. -/
def Fault.isExchange : Fault → Bool
  | .content _ => true
  | .reported reporter _ => reporter.isExchange
  | _ => false

/-! ### Names -/

/-- The name of a fault in a JSON text. -/
def jsonKindName : Json.Error → String
  | .truncated => "DecodeError"
  | .malformed _ _ => "DecodeError"
  | .numberOutOfRange _ => "ValidationError"
  | .integerOutOfRange _ => "ValidationError"
  | .undecodable _ => "UnicodeDecodeError"
  | .tooDeep => "RecursionError"

/-- The name of a fault in values that are encoded. -/
def encodingKindName : Abi.EncodeError → String
  | .type (.malformed _) => "ParseError"
  | .type .emptyTuple => "ValueError"
  | .type (.badSize _ _ _ _) => "ABITypeError"
  | .type (.unknown _) => "NoEntriesFound"
  | .type (.sizedFunction _) => "ValueError"
  | .value (.wrongKind _ _) => "EncodingTypeError"
  | .value (.notSequence _ _ _) => "EncodingTypeError"
  | .value .unwritable => "ValueError"
  | .value _ => "ValueOutOfBounds"

/-- The name of a fault in a payload. -/
def decodingKindName : Abi.DecodeError → String
  | .shortWord _ => "InsufficientDataBytes"
  | .shortBytes _ _ => "InsufficientDataBytes"
  | .badOffset _ _ => "InvalidPointer"
  | .dirtyPadding _ => "NonEmptyPaddingBytes"
  | .lengthTooLarge => "OverflowError"

/-- The name of a fault in a map. -/
def mappingKindName : MappingError → String
  | .pairLength _ _ => "ValueError"
  | _ => "TypeError"

/-- The name of a fault in headers. -/
def headerKindName : Http.HeaderError → String
  | .tooFewParts _ => "ValueError"
  | .tooManyParts => "ValueError"
  | .badName _ => "AttributeError"
  | .notAscii _ => "UnicodeEncodeError"
  | _ => "TypeError"

/-- The name of a fault in bytes of a character set. -/
def charsetKindName : Charset.Error → String
  | .bytesOnly => "AssertionError"
  | .textOnly => "TypeError"
  | .notAscii _ _ => "UnicodeDecodeError"
  | .nameWithZero => "ValueError"
  | _ => "UnicodeError"

/-- The name of a fault in a media type. -/
def mediaTypeKindName : Http.MediaTypeError → String
  | .mixedSections _ _ => "TypeError"
  | .sectionNumber _ => "ValueError"
  | .charset e => charsetKindName e

/-- The name of a fault's kind. -/
def Fault.kindName : Fault → String
  | .json e => jsonKindName e
  | .shape _ => "ValidationError"
  | .numeral _ => "ValueError"
  | .hex _ => "Error"
  | .encoding e => encodingKindName e
  | .decoding e => decodingKindName e
  | .mapping e => mappingKindName e
  | .header e => headerKindName e
  | .mediaType e => mediaTypeKindName e
  | .charset e => charsetKindName e
  | .content _ => "DecodingError"
  | .misuse _ => "TypeError"
  | .keyTaken _ => "KeyError"
  | .missingKey _ => "KeyError"
  | .noMember _ _ => "AttributeError"
  | .notIterable _ => "TypeError"
  | .notSearchable _ => "TypeError"
  | .bytesForHex _ => "TypeError"
  | .noOrder _ _ _ => "TypeError"
  | .noArithmetic _ _ _ => "TypeError"
  | .notWhole _ => "TypeError"
  | .badBody _ => "TypeError"
  | .notTexts => "TypeError"
  | .itemNotText _ _ => "TypeError"
  | .notACount _ => "TypeError"
  | .countTooLarge => "ValueError"
  | .noItem => "IndexError"
  | .unwritableKey => "TypeError"
  | .noBracket => "ValueError"
  | .integerTooLarge => "OverflowError"
  | .infiniteInteger => "OverflowError"
  | .nanInteger => "ValueError"
  | .unknownBackend _ => "ValueError"
  | .unsupportedBackend _ => "ValueError"
  | .targetNotAllowed _ => "TargetNotAllowed"
  | .reported reporter details => reportName reporter details

end Workflow
