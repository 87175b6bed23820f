import Workflow.Failure.Fault

/-!
# Failures

Everything that can go wrong with a workflow, told apart by cause.  A `Failure` is either known to
the rules of workflows (a step that is set up wrongly, an expression that leads nowhere, call data
that cannot be formed, an outside service that fails or denies) or a `Fault`.  `Failure.message`
words a failure, `Failure.kindName` names its kind, and `Failure.isTransient` says whether another
attempt may cure it.  Asking for the text of a failure can fail in its turn, as an integer in a
value that is shown may be too long: `Failure.text` is the text or that fault.
-/

namespace Workflow

/-! ### Misconfiguration -/

/-- What is absent or contradictory in the set-up of a step. -/
inductive Misconfiguration where
  /-- A structural rule of definitions is broken. -/
  | breach (flaw : Flaw)
  /-- An HTTP step names no endpoint. -/
  | noEndpoint
  /-- No endpoint is stored under an id. -/
  | unknownProxy (id : String)
  /-- What is stored under an id is no endpoint. -/
  | malformedProxy (id : String) (mismatch : Shape.Mismatch)
  /-- An operation has neither call data nor what is needed to form it. -/
  | incompleteOperation
  /-- No handler knows the kind of a step. -/
  | unknownStep (kind : String)
  /-- An output key has been written before. -/
  | keyTaken (key : String)

/-- The wording of a misconfiguration. -/
def Misconfiguration.message : Misconfiguration → String
  | .breach flaw => flaw.message
  | .noEndpoint => "HTTP step must have either proxyId or url"
  | .unknownProxy id => "Proxy not found: " ++ id
  | .malformedProxy id mismatch => "Malformed proxy record " ++ id ++ ": " ++ mismatch.message
  | .incompleteOperation =>
    "Operation must have either calldata, or selector + abiFragment + argsMapping"
  | .unknownStep kind => "Unknown step type: " ++ kind
  | .keyTaken key => "Output key already written: Step output already recorded: " ++ key

/-- The fault behind a misconfiguration. -/
def Misconfiguration.cause : Misconfiguration → Option Fault
  | .malformedProxy _ mismatch => some (.shape mismatch)
  | .keyTaken key => some (.keyTaken key)
  | _ => none

/-! ### Call data -/

/-- Why call data or a payload cannot be formed or read. -/
inductive CodingProblem where
  /-- A declaration has no function name with a parameter list. -/
  | badDeclaration (text : String)
  /-- An interface entry has no function name. -/
  | namelessEntry (entry : Value)
  /-- An interface text is no JSON value. -/
  | fragmentNotJson (e : Json.Error)
  /-- An interface list does not hold exactly one function. -/
  | functionCount (count : Nat)
  /-- A value describes no function. -/
  | unsupportedFragment (fragment : Value)
  /-- The parentheses of a declaration do not match. -/
  | unbalanced (text : String)
  /-- A parameter of a declaration is empty. -/
  | emptyParameter (text : String)
  /-- A parameter of a declaration has no type. -/
  | untypedParameter (parameter text : String)
  /-- A parameter of a declaration has too many words. -/
  | badParameter (parameter text : String)
  /-- A parameter of an interface entry has no type. -/
  | badEntryType (type : String)
  /-- A value is no hexadecimal text. -/
  | notHex (label : String) (value : Value)
  /-- A truth value stands for an integer. -/
  | truthForInteger (label : String)
  /-- A value is no integer. -/
  | notInteger (label : String) (value : Value)
  /-- An integer does not fit into a word. -/
  | outOfRange (label : String) (value : Value)
  /-- An argument is no array. -/
  | notArray (label type : String)
  /-- An argument is no tuple of the right length. -/
  | notTuple (label : String) (length : Nat)
  /-- An argument is no truth value. -/
  | notBoolean (label : String) (value : Value)
  /-- An argument is no address. -/
  | notAddress (label : String) (value : Value)
  /-- A selector is not that of the function. -/
  | selectorMismatch (selector signature expected : String)
  /-- The arguments of a function cannot be encoded. -/
  | argumentsRefused (signature : String) (e : Abi.EncodeError)
  /-- A call target is no address. -/
  | badTarget (target : Value)
  /-- A payload is too short to hold a call. -/
  | payloadTooShort (length : Nat)
  /-- Calls cannot be encoded. -/
  | batchRefused (e : Abi.EncodeError)
  /-- A payload holds no calls. -/
  | batchUnreadable (e : Abi.DecodeError)

/-- The wording of a coding problem. -/
def CodingProblem.message : CodingProblem → String
  | .badDeclaration text => "Invalid ABI fragment: " ++ text
  | .namelessEntry entry => "Invalid ABI fragment: missing function name in " ++ entry.shown
  | .fragmentNotJson e => "Invalid ABI fragment: " ++ e.message
  | .functionCount count =>
    "ABI fragment must describe exactly one function, found " ++ toString count
  | .unsupportedFragment fragment => "Unsupported ABI fragment: " ++ fragment.shown
  | .unbalanced text => "Unbalanced parentheses in ABI fragment: " ++ text
  | .emptyParameter text => "Empty parameter in ABI fragment: " ++ text
  | .untypedParameter parameter text =>
    "Invalid parameter type '" ++ parameter ++ "' in ABI fragment: " ++ text
  | .badParameter parameter text =>
    "Invalid parameter '" ++ parameter ++ "' in ABI fragment: " ++ text
  | .badEntryType type => "Invalid parameter type: " ++ Quoted.text type
  | .notHex label value => "Invalid " ++ label ++ ": expected hex data, got " ++ value.shown
  | .truthForInteger label => "Invalid " ++ label ++ ": expected an integer, got bool"
  | .notInteger label value => "Invalid " ++ label ++ ": expected an integer, got " ++ value.shown
  | .outOfRange label value =>
    "Invalid " ++ label ++ ": " ++ value.shown ++ " is out of range for uint256"
  | .notArray label type => "Argument '" ++ label ++ "' must be an array for type " ++ type
  | .notTuple label length =>
    "Argument '" ++ label ++ "' must be a tuple of " ++ toString length ++ " values"
  | .notBoolean label value =>
    "Invalid argument '" ++ label ++ "': expected a boolean, got " ++ value.shown
  | .notAddress label value =>
    "Invalid argument '" ++ label ++ "': expected an address, got " ++ value.shown
  | .selectorMismatch selector signature expected =>
    "Selector " ++ selector ++ " does not match " ++ signature ++ " (expected " ++ expected ++ ")"
  | .argumentsRefused signature e =>
    "Cannot encode arguments for " ++ signature ++ ": " ++ e.message
  | .badTarget target => "Invalid target address: " ++ target.shown
  | .payloadTooShort length =>
    "Execution data too short for a single call: " ++ toString length ++ " bytes"
  | .batchRefused e => "Cannot encode batch calls: " ++ e.message
  | .batchUnreadable e => "Cannot decode batch calls: " ++ e.message

/-- The value that the wording shows, if there is one. -/
def CodingProblem.shown? : CodingProblem → Option Value
  | .namelessEntry entry => some entry
  | .unsupportedFragment fragment => some fragment
  | .notHex _ value => some value
  | .notInteger _ value => some value
  | .outOfRange _ value => some value
  | .notBoolean _ value => some value
  | .notAddress _ value => some value
  | .badTarget target => some target
  | _ => none

/-- Whether a coding problem has a text. -/
def CodingProblem.isWritable (problem : CodingProblem) : Bool :=
  problem.shown?.all Value.isWritable

/-- The fault behind a coding problem. -/
def CodingProblem.cause : CodingProblem → Option Fault
  | .fragmentNotJson e => some (.json e)
  | .argumentsRefused _ e => some (.encoding e)
  | .batchRefused e => some (.encoding e)
  | .batchUnreadable e => some (.decoding e)
  | _ => none

/-! ### Outside services -/

/-- How an outside service fails. -/
inductive ServiceProblem where
  /-- A server answers with a status other than success. -/
  | status (code : Value) (reason body : String)
  /-- A server sends a malformed JSON text. -/
  | malformedBody (e : Json.Error) (code : Value) (body : String)
  /-- A server is not reached. -/
  | unreachable (fault : Fault)
  /-- A transaction is not accepted. -/
  | rejected (fault : Fault)
  /-- A transaction is answered by something that is no receipt. -/
  | malformedReceipt (mismatch : Shape.Mismatch)

/-- The wording of a service problem. -/
def ServiceProblem.message : ServiceProblem → String
  | .status code reason body =>
    "HTTP request failed: " ++ code.plainText ++ " " ++ reason ++ " - " ++ body
  | .malformedBody e _ _ => "Malformed JSON response: " ++ e.message
  | .unreachable fault => "HTTP request failed: " ++ fault.message
  | .rejected fault => "Transaction failed: " ++ fault.message
  | .malformedReceipt mismatch => "Malformed transaction receipt: " ++ mismatch.message

/-- Whether a service problem has a text. -/
def ServiceProblem.isWritable : ServiceProblem → Bool
  | .status code _ _ => code.isWritable
  | .unreachable fault => fault.isWritable
  | .rejected fault => fault.isWritable
  | _ => true

/-- The status of the answer, if there was one. -/
def ServiceProblem.statusCode : ServiceProblem → Value
  | .status code _ _ => code
  | .malformedBody _ code _ => code
  | _ => .null

/-- The body of the answer, if there was one. -/
def ServiceProblem.body : ServiceProblem → Value
  | .status _ _ body => .text body
  | .malformedBody _ _ body => .text body
  | _ => .null

/-- The fault behind a service problem. -/
def ServiceProblem.cause : ServiceProblem → Option Fault
  | .malformedBody e _ _ => some (.json e)
  | .unreachable fault => some fault
  | .rejected fault => some fault
  | .malformedReceipt mismatch => some (.shape mismatch)
  | _ => none

/-! ### Failures -/

/-- The names of what was denied. -/
structure Denied where
  /-- The call targets. -/
  targets : List String
  /-- The labels of the operations. -/
  operations : List String

/-- A failure of a known kind as an outside service states it. -/
structure Statement where
  /-- The kind. -/
  kind : FailureKind
  /-- The wording, which should be a text. -/
  text : Value
  /-- What the failure is about. -/
  details : List (String × Value) := []
  /-- The name of the kind of its cause, if one is given. -/
  causeName : Option String := none

/-- What goes wrong with a workflow. -/
inductive Failure where
  /-- A step is set up wrongly. -/
  | misconfigured (problem : Misconfiguration)
  /-- An expression leads nowhere. -/
  | unresolved (expression : String)
  /-- A parameter has no argument. -/
  | missingArgument (parameter : String) (function : Option String)
  /-- A definition or an input is invalid. -/
  | invalid (heading : String) (errors : List String)
  /-- Call data or a payload cannot be formed or read. -/
  | coding (problem : CodingProblem)
  /-- A call target is no address. -/
  | badTarget (expression resolved : Value)
  /-- An outside service fails. -/
  | service (problem : ServiceProblem)
  /-- A call target is not allowed, as the failure of a submission shows. -/
  | denied (what : Denied) (failure : Failure)
  /-- An outside service states a failure. -/
  | stated (s : Statement)
  /-- A fault. -/
  | fault (f : Fault)

/-- The targets in a message. -/
def Denied.targetText (what : Denied) : String := ", ".intercalate what.targets

/-- The operations in a message. -/
def Denied.operationText (what : Denied) : String := ", ".intercalate what.operations

/-- The wording of an expression that leads nowhere. -/
def unresolvedText (expression : String) : String :=
  "Cannot resolve expression '" ++ expression ++ "'"

/-- The wording of a missing argument; an empty function name is not mentioned. -/
def missingText (parameter function : String) : String :=
  "Missing argument: " ++ parameter
    ++ (if function.isEmpty then "" else " for function '" ++ function ++ "'")

/-- The wording of problems under a heading. -/
def invalidText (heading : String) (errors : List String) : String :=
  heading ++ ": " ++ "; ".intercalate errors

/-- The wording of a call target that is no address. -/
def badTargetText (expression resolved : Value) : String :=
  "Invalid target address: " ++ expression.plainText ++ " resolved to " ++ resolved.shown

namespace Failure

/-- The wording of a failure, if it has one. -/
def message : Failure → String
  | .misconfigured problem => problem.message
  | .unresolved expression => unresolvedText expression
  | .missingArgument parameter function => missingText parameter (function.getD "")
  | .invalid heading errors => invalidText heading errors
  | .coding problem => problem.message
  | .badTarget expression resolved => badTargetText expression resolved
  | .service problem => problem.message
  | .denied what failure =>
    "Target not allowed for operation '" ++ what.operationText ++ "' (" ++ what.targetText ++ "): "
      ++ failure.message
  | .stated s => s.text.plainText
  | .fault f => f.message

/-- Whether a failure has a text: no integer in a value that it shows is too long. -/
def isWritable : Failure → Bool
  | .coding problem => problem.isWritable
  | .badTarget expression resolved => expression.isWritable && resolved.isWritable
  | .service problem => problem.isWritable
  | .denied _ failure => failure.isWritable
  | .stated s => s.text.isWritable
  | .fault f => f.isWritable
  | _ => true

/-- The text of a failure; what cannot be written is a fault. -/
def text (e : Failure) : Except Failure String :=
  if e.isWritable then .ok e.message else .error (.fault (.numeral .tooLongToWrite))

/-- A failure whose message shows a value; a value that cannot be written is a fault. -/
def showing (v : Value) (e : Failure) : Failure :=
  if v.isWritable then e else .fault (.numeral .tooLongToWrite)

/-- The kind of a failure; faults have none. -/
def kind? : Failure → Option FailureKind
  | .misconfigured _ => some .misconfigured
  | .unresolved _ => some .unresolved
  | .missingArgument _ _ => some .missingArgument
  | .invalid _ _ => some .invalid
  | .coding _ => some .coding
  | .badTarget _ _ => some .badTarget
  | .service _ => some .service
  | .denied _ _ => some .denied
  | .stated s => some s.kind
  | .fault _ => none

/-- The name of a failure's kind. -/
def kindName : Failure → String
  | .fault f => f.kindName
  | e => (e.kind?.map FailureKind.name).getD ""

/-- The failure behind a failure. -/
def cause : Failure → Option Failure
  | .misconfigured problem => problem.cause.map .fault
  | .coding problem => problem.cause.map .fault
  | .service problem => problem.cause.map .fault
  | .denied _ failure => some failure
  | _ => none

/-- The name of the kind of what is behind a failure. -/
def causeName : Failure → Option String
  | .stated s => s.causeName
  | e => e.cause.map kindName

/-- What a failure is about. -/
def details : Failure → List (String × Value)
  | .unresolved expression => [("expression", .text expression)]
  | .missingArgument parameter _ =>
    [("expression", .text parameter), ("parameter", .text parameter)]
  | .invalid _ errors => [("errors", .list (errors.map .text))]
  | .badTarget expression resolved => [("expression", expression), ("resolved", resolved)]
  | .service problem => [("status", problem.statusCode), ("body", problem.body)]
  | .denied what _ =>
    [("target", .text what.targetText), ("operation", .text what.operationText)]
  | .stated s => s.details
  | _ => []

/-- Whether another attempt may succeed: outside services and faults may recover. -/
def isTransient (e : Failure) : Bool := e.kind? == none || e.kind? == some .service

/-- Whether the failure is a denial that names its target. -/
def namesDenied (e : Failure) : Bool :=
  e.kind? == some .denied && e.details.any fun (name, v) => name == "target" && v.isTruthy

end Failure

end Workflow
