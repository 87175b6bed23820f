import Workflow.Value.Display

/-!
# Reports of failures

An outside service reports a failure by the name of its kind and by details, some of them in order
and some by name.  A kind known to the rules of workflows takes the details of its `Signature`;
every other kind takes details in order only.  `Signature.bind` brings the details to their names
or says how they do not fit.
-/

namespace Workflow

/-! ### Kinds -/

/-- The kinds of failures that the rules of workflows know. -/
inductive FailureKind where
  /-- A reason without a closer kind. -/
  | general
  /-- A step is set up wrongly. -/
  | misconfigured
  /-- An expression leads nowhere. -/
  | unresolved
  /-- A parameter has no argument. -/
  | missingArgument
  /-- A definition or an input is invalid. -/
  | invalid
  /-- Call data or a payload cannot be formed or read. -/
  | coding
  /-- A call target is no address. -/
  | badTarget
  /-- An outside service fails. -/
  | service
  /-- A call target is not allowed. -/
  | denied
  deriving DecidableEq, Repr

/-- The name of a kind. -/
def FailureKind.name : FailureKind → String
  | .general => "WorkflowError"
  | .misconfigured => "ConfigurationError"
  | .unresolved => "ResolutionError"
  | .missingArgument => "MissingArgumentError"
  | .invalid => "ValidationError"
  | .coding => "EncodingError"
  | .badTarget => "InvalidTargetError"
  | .service => "ExternalCallError"
  | .denied => "PermissionDeniedError"

/-- All kinds. -/
def FailureKind.all : List FailureKind :=
  [.general, .misconfigured, .unresolved, .missingArgument, .invalid, .coding, .badTarget,
    .service, .denied]

/-- Who reports a fault that the rules of workflows know nothing of. -/
inductive Reporter where
  /-- A program that runs. -/
  | runtime
  /-- An operation on values. -/
  | value
  /-- The operating system. -/
  | system
  /-- A look-up by key. -/
  | lookup
  /-- An operation on a value of a wrong kind. -/
  | kind
  /-- The reader of a URL. -/
  | url
  /-- A connection that cannot be made. -/
  | connection
  /-- An answer that does not come in time. -/
  | timeout
  /-- Any other trouble with an exchange. -/
  | exchange
  deriving DecidableEq, Repr

/-- The name of the faults of a reporter. -/
def Reporter.name : Reporter → String
  | .runtime => "RuntimeError"
  | .value => "ValueError"
  | .system => "OSError"
  | .lookup => "KeyError"
  | .kind => "TypeError"
  | .url => "InvalidURL"
  | .connection => "ConnectError"
  | .timeout => "ReadTimeout"
  | .exchange => "HTTPError"

/-- All reporters. -/
def Reporter.all : List Reporter :=
  [.runtime, .value, .system, .lookup, .kind, .url, .connection, .timeout, .exchange]

/-- Whether a reporter's faults arise in the exchange with an HTTP server. -/
def Reporter.isExchange : Reporter → Bool
  | .connection => true
  | .timeout => true
  | .exchange => true
  | _ => false

/-! ### Details -/

/-- The details that a report takes. -/
structure Signature where
  /-- What messages call the kind of the report. -/
  owner : String
  /-- The details that must be given, in order. -/
  required : List String
  /-- The details that may follow them. -/
  optional : List String := []
  /-- The details that can be given by name only. -/
  nameOnly : List String := []

/-- How details do not fit a report. -/
inductive Misuse where
  /-- There is no detail of the name. -/
  | unexpected (owner name : String)
  /-- A detail is given twice. -/
  | repeated (owner name : String)
  /-- There are too many details in order. -/
  | tooMany (owner : String) (least most given named : Nat)
  /-- Details are missing. -/
  | missing (owner : String) (names : List String)
  /-- The report takes no details by name. -/
  | unnameable (owner : String)
  deriving DecidableEq, Repr

/-- Quoted names in a row, the last one set off. -/
def enumerated : List String → String
  | [] => ""
  | [a] => Quoted.text a
  | [a, b] => Quoted.text a ++ " and " ++ Quoted.text b
  | names =>
    ", ".intercalate (names.dropLast.map Quoted.text) ++ ", and "
      ++ Quoted.text (names.getLast?.getD "")

/-- The ending of a noun for a number of things. -/
def pluralEnding (n : Nat) : String := if n = 1 then "" else "s"

/-- The wording of a misuse. -/
def Misuse.message : Misuse → String
  | .unexpected owner name =>
    owner ++ "() got an unexpected keyword argument " ++ Quoted.text name
  | .repeated owner name => owner ++ "() got multiple values for argument " ++ Quoted.text name
  | .tooMany owner least most given named =>
    let allowed := if least = most then toString most
      else "from " ++ toString least ++ " to " ++ toString most
    let byName := if named = 0 then ""
      else " positional argument" ++ pluralEnding given ++ " (and " ++ toString named
        ++ " keyword-only argument" ++ pluralEnding named ++ ")"
    owner ++ "() takes " ++ allowed ++ " positional argument"
      ++ (if least = most then pluralEnding most else "s") ++ " but " ++ toString given ++ byName
      ++ " were given"
  | .missing owner names =>
    owner ++ "() missing " ++ toString names.length ++ " required positional argument"
      ++ pluralEnding names.length ++ ": " ++ enumerated names
  | .unnameable owner => owner ++ "() takes no keyword arguments"

/-- The name of the place in front of all details, which is that of the failure itself. -/
def ownPlace : String := "self"

/-- The names of the places of details in order. -/
def Signature.places (s : Signature) : List String := ownPlace :: (s.required ++ s.optional)

/-- Adds details by name to those given in order. -/
def Signature.bindNamed (s : Signature) (bound : List (String × Value)) :
    List (String × Value) → Except Misuse (List (String × Value))
  | [] => .ok bound
  | (name, v) :: rest =>
    if !(s.places ++ s.nameOnly).contains name then .error (.unexpected s.owner name)
    else if Fields.contains bound name then .error (.repeated s.owner name)
    else s.bindNamed (bound ++ [(name, v)]) rest

/-- The details of a report by name. -/
def Signature.bind (s : Signature) (inOrder : List Value) (byName : List (String × Value)) :
    Except Misuse (List (String × Value)) := do
  let bound ← s.bindNamed (s.places.zip (.null :: inOrder)) byName
  if s.places.length < inOrder.length + 1 then
    .error (.tooMany s.owner (s.required.length + 1) s.places.length (inOrder.length + 1)
      (s.nameOnly.filter (Fields.contains bound)).length)
  else
    match s.required.filter (!Fields.contains bound ·) with
    | [] => .ok bound
    | names => .error (.missing s.owner names)

/-- The details that a kind known to the rules takes. -/
def FailureKind.signature : FailureKind → Signature
  | .unresolved => ⟨"ResolutionError.__init__", ["expression"], ["message", "cause"], []⟩
  | .missingArgument => ⟨"MissingArgumentError.__init__", ["parameter"], ["function"], []⟩
  | .invalid => ⟨"ValidationError.__init__", ["errors"], ["prefix"], []⟩
  | .badTarget => ⟨"InvalidTargetError.__init__", ["expression", "resolved"], [], []⟩
  | .service => ⟨"ExternalCallError.__init__", ["message"], ["status", "body", "cause"], []⟩
  | .denied => ⟨"PermissionDeniedError.__init__", ["message"], ["target", "operation", "cause"], []⟩
  | _ => ⟨"WorkflowError.__init__", ["message"], ["cause"], []⟩

/-- The details that a reporter's faults take; `none` for reporters that take any details in
order. -/
def Reporter.signature? : Reporter → Option Signature
  | .url => some ⟨"InvalidURL.__init__", ["message"], [], []⟩
  | .exchange => some ⟨"HTTPError.__init__", ["message"], [], []⟩
  | .connection => some ⟨"RequestError.__init__", ["message"], [], ["request"]⟩
  | .timeout => some ⟨"RequestError.__init__", ["message"], [], ["request"]⟩
  | _ => none

/-! ### Reports of the operating system -/

/-- A report of the operating system: a number, a text, and up to two places that it is about. -/
structure SystemReport where
  /-- The number of the trouble. -/
  code : Value
  /-- What the trouble is. -/
  text : Value
  /-- The place of the trouble. -/
  place : Option Value := none
  /-- A second place. -/
  second : Option Value := none

/-- The kinds of system faults by number. -/
def systemKinds : List (Int × String) := [
  (1, "PermissionError"), (2, "FileNotFoundError"), (3, "ProcessLookupError"),
  (4, "InterruptedError"), (10, "ChildProcessError"), (11, "BlockingIOError"),
  (13, "PermissionError"), (17, "FileExistsError"), (20, "NotADirectoryError"),
  (21, "IsADirectoryError"), (32, "BrokenPipeError"), (103, "ConnectionAbortedError"),
  (104, "ConnectionResetError"), (108, "BrokenPipeError"), (110, "TimeoutError"),
  (111, "ConnectionRefusedError"), (114, "BlockingIOError"), (115, "BlockingIOError")]

/-- The kind of the fault with a number; truth values count as one and zero. -/
def systemKind (code : Value) : String :=
  let found := match code with
    | .int n => systemKinds.lookup n
    | .bool b => systemKinds.lookup (if b then 1 else 0)
    | _ => none
  found.getD Reporter.system.name

/-- The kind of faults whose place may be a count of characters. -/
def blockedKind : String := "BlockingIOError"

/-- Whether a value stands for a count in place of a name. -/
def isCount : Value → Bool
  | .int _ => true
  | .bool _ => true
  | .float _ => true
  | _ => false

/-- A value unless it is absent. -/
def present? : Option Value → Option Value
  | some .null => none
  | v => v

/-- The system report with the given details, if they are as many as one takes. -/
def SystemReport.ofDetails? : List Value → Option SystemReport
  | code :: text :: more =>
    if 3 < more.length then none
    else
      match present? more[0]? with
      | none => some ⟨code, text, none, none⟩
      | some place =>
        if systemKind code == blockedKind && isCount place then some ⟨code, text, none, none⟩
        else some ⟨code, text, some place, present? more[2]?⟩
  | _ => none

/-- The wording of a system report, if it has one. -/
def SystemReport.message (r : SystemReport) : String :=
  let head := "[Errno " ++ r.code.plainText ++ "] " ++ r.text.plainText
  match r.place, r.second with
  | none, _ => head
  | some place, none => head ++ ": " ++ place.shown
  | some place, some second => head ++ ": " ++ place.shown ++ " -> " ++ second.shown

/-- The wording of reported details, if they have one. -/
def reportText (reporter : Reporter) (details : List Value) : String :=
  match reporter, SystemReport.ofDetails? details with
  | .system, some r => r.message
  | _, _ =>
    match reporter, details with
    | _, [] => ""
    | .lookup, [key] => key.shown
    | _, [detail] => detail.plainText
    | _, details => (Value.tuple details).shown

/-- The values that a system report shows. -/
def SystemReport.shownValues (r : SystemReport) : List Value :=
  match r.place with
  | none => [r.code, r.text]
  | some place => r.code :: r.text :: place :: r.second.toList

/-- Whether reported details have a text: no integer among those that are shown is too long. -/
def areReportable (reporter : Reporter) (details : List Value) : Bool :=
  match reporter, SystemReport.ofDetails? details with
  | .system, some r => Value.areWritable r.shownValues
  | _, _ => Value.areWritable details

/-- The name of a reported fault. -/
def reportName (reporter : Reporter) (details : List Value) : String :=
  match reporter, SystemReport.ofDetails? details with
  | .system, some r => systemKind r.code
  | _, _ => reporter.name

end Workflow
