import Workflow.Failure.Basic

/-!
# Failures that outside services report

An outside service reports a failure by the name of its kind and by details.  `Failure.ofReport`
forms the failure, or says why the details do not make one.  `Failure.lineage` names the kinds to
which a failure belongs, from the closest to the widest.
-/

namespace Workflow

/-! ### Known kinds -/

/-- The texts in a sequence, the first of its items with the given index. -/
def textsFrom (index : Nat) : List Value → Except Fault (List String)
  | [] => .ok []
  | .text s :: vs => (textsFrom (index + 1) vs).map (s :: ·)
  | v :: _ => .error (.itemNotText index v.kindName)

/-- The texts that a value holds. -/
def textsIn (v : Value) : Except Fault (List String) :=
  match v.elements? with
  | some vs => textsFrom 0 vs
  | none => .error .notTexts

/-- The name of the kind of a value that stands for a cause. -/
def valueCauseName : Value → Option String
  | .null => none
  | v => some v.kindName

/-- The heading of problems that stand under no other. -/
def standardHeading : String := "Invalid workflow"

/-- The text of a value that counts as true, and the empty text of any other. -/
def truthyText (v : Value) : String := if v.isTruthy then v.plainText else ""

/-- Values whose texts are put together at once; an integer that is too long has none. -/
def requireWritable (vs : List Value) : Except Fault Unit :=
  if Value.areWritable vs then .ok () else .error (.numeral .tooLongToWrite)

/-- The failure of a known kind with details by name.  A text that is put together from details is
put together here, and a text that is given as a whole is kept as it is given. -/
def Statement.ofDetails (kind : FailureKind) (given : List (String × Value)) :
    Except Fault Statement :=
  let detail := fun name => (Fields.get? given name).getD Value.null
  let causeName := valueCauseName (detail "cause")
  let pick := fun names => names.map fun name => (name, detail name)
  match kind with
  | .unresolved => do
    let expression := detail "expression"
    let message := detail "message"
    if message.isTruthy then return ⟨kind, message, pick ["expression"], causeName⟩
    else
      requireWritable [expression]
      return ⟨kind, .text (unresolvedText expression.plainText), pick ["expression"], causeName⟩
  | .missingArgument => do
    let parameter := detail "parameter"
    let function := detail "function"
    requireWritable [function, parameter]
    return ⟨kind, .text (missingText parameter.plainText (truthyText function)),
      [("expression", parameter), ("parameter", parameter)], none⟩
  | .invalid => do
    let heading := (Fields.get? given "prefix").getD (.text standardHeading)
    requireWritable [heading]
    let errors ← textsIn (detail "errors")
    return ⟨kind, .text (invalidText heading.plainText errors),
      [("errors", .list (errors.map .text))], none⟩
  | .badTarget => do
    requireWritable [detail "expression", detail "resolved"]
    return ⟨kind, .text (badTargetText (detail "expression") (detail "resolved")),
      pick ["expression", "resolved"], none⟩
  | .service => .ok ⟨kind, detail "message", pick ["status", "body"], causeName⟩
  | .denied => .ok ⟨kind, detail "message", pick ["target", "operation"], causeName⟩
  | _ => .ok ⟨kind, detail "message", [], causeName⟩

/-! ### Faults -/

/-- Whether an integer can be a count. -/
def isCountable (n : Int) : Bool := -(Nat.pow 2 63) ≤ n && n < Nat.pow 2 63

/-- Checks the details of a fault of the operating system. -/
def checkSystemDetails (details : List Value) : Except Fault Unit :=
  match SystemReport.ofDetails? details with
  | none => .ok ()
  | some r =>
    if systemKind r.code != blockedKind then .ok ()
    else
      match (details[2]? : Option Value) with
      | some (Value.float x) => .error (.notACount (Value.float x).kindName)
      | some (Value.int n) => if isCountable n then .ok () else .error .countTooLarge
      | _ => .ok ()

/-- The fault that a reporter reports with details. -/
def Reporter.fault (reporter : Reporter) (inOrder : List Value) (byName : List (String × Value)) :
    Except Fault Fault := do
  match reporter.signature? with
  | some s =>
    let _ ← (s.bind inOrder byName).mapError Fault.misuse
    let message := (inOrder[0]?).getD ((Fields.get? byName "message").getD .null)
    return .reported reporter [message]
  | none =>
    if !byName.isEmpty then .error (.misuse (.unnameable reporter.name))
    else
      if reporter == .system then checkSystemDetails inOrder
      return .reported reporter inOrder

/-! ### Reports -/

/-- The failure that a service reports under the name of a kind. -/
def Failure.ofReport (name : String) (inOrder : List Value) (byName : List (String × Value)) :
    Except Fault Failure :=
  match FailureKind.all.find? (·.name == name) with
  | some kind => do
    let given ← (kind.signature.bind inOrder byName).mapError Fault.misuse
    return .stated (← Statement.ofDetails kind given)
  | none =>
    let reporter := (Reporter.all.find? (·.name == name)).getD .runtime
    (reporter.fault inOrder byName).map .fault

/-- The failure that a service raises when it reports: details that make no failure are a fault of
their own. -/
def Failure.raised (name : String) (inOrder : List Value) (byName : List (String × Value)) :
    Failure :=
  match ofReport name inOrder byName with
  | .ok e => e
  | .error f => .fault f

/-! ### Lineage -/

/-- The kind of all failures. -/
def widestKind : String := "Exception"

/-- The name of the next wider kind of a fault. -/
def widerKind (name : String) : String :=
  if ["BrokenPipeError", "ConnectionAbortedError", "ConnectionRefusedError",
      "ConnectionResetError"].contains name then "ConnectionError"
  else if name == "ConnectionError" || systemKinds.any (·.2 == name) then Reporter.system.name
  else if name == "KeyError" then "LookupError"
  else if name == "ConnectError" then "NetworkError"
  else if name == "ReadTimeout" then "TimeoutException"
  else if name == "NetworkError" || name == "TimeoutException" then "TransportError"
  else if name == "TransportError" then "RequestError"
  else if name == "RequestError" then Reporter.exchange.name
  else widestKind

/-- The names of wider and wider kinds, at most the given number of steps up. -/
def widerKinds : Nat → String → List String
  | 0, _ => [widestKind]
  | steps + 1, name =>
    if name == widestKind then [name] else name :: widerKinds steps (widerKind name)

/-- The next wider known kind. -/
def FailureKind.wider : FailureKind → FailureKind
  | .missingArgument => .unresolved
  | .badTarget => .coding
  | _ => .general

/-- The names of the kinds to which a failure belongs, from the closest to the widest. -/
def Failure.lineage (e : Failure) : List String :=
  match e.kind? with
  | none => widerKinds 6 e.kindName
  | some kind =>
    let known := if kind == .general then [kind]
      else if kind.wider == .general then [kind, .general]
      else [kind, kind.wider, .general]
    known.map FailureKind.name ++ [widestKind]

end Workflow
