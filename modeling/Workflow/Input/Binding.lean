import Workflow.Address
import Workflow.Failure.Basic
import Workflow.Input.Variable
import Workflow.Text.Case
import Workflow.Value.Mapping

/-!
# Binding input

The input that a caller supplies is checked against the declared variables and brought to their
types; numbers and truth values may be given as text.  A variable without a value takes its
default.  All problems are collected and reported together, in the order of the declarations.
-/

namespace Workflow

/-- Why a value does not have the type of a variable. -/
inductive InputProblem where
  /-- The value is of another kind. -/
  | wrongKind (wanted kind : String)
  /-- The value is no address. -/
  | notAddress
  /-- The value is no sequence of digits. -/
  | notDigits
  /-- A numeral cannot be read or written. -/
  | notNumeral (e : Numeral.Error)
  /-- The value is no truth value. -/
  | notBoolean (v : Value)

/-- The wording of a problem. -/
def InputProblem.message : InputProblem → String
  | .wrongKind wanted kind => "expected a " ++ wanted ++ ", got " ++ kind
  | .notAddress => "Invalid address format"
  | .notDigits => "Must be a numeric string (uint256)"
  | .notNumeral e => e.message
  | .notBoolean v => "expected a boolean, got " ++ v.shown

/-! ### Types -/

/-- Whether a text is a sequence of digits; one final line break is let through. -/
def isDigits (s : String) : Bool :=
  let cs := Hex.dropFinalNewline s.toList
  !cs.isEmpty && cs.all Text.isDigit

/-- Brings a text to type `number`. -/
def numberOfText (s : String) : Except InputProblem Value :=
  let t := trimmed s
  if isDigits t then
    match Numeral.readInt t with
    | .ok n => .ok (.int n)
    | .error e => .error (.notNumeral e)
  else
    match Numeral.readFloat t with
    | .ok x => .ok (.float x)
    | .error e => .error (.notNumeral e)

/-- The truth value that a text denotes. -/
def booleanOfText? (s : String) : Option Bool :=
  let t := Text.lower (trimmed s)
  if ["true", "1", "yes", "y"].contains t then some true
  else if ["false", "0", "no", "n"].contains t then some false
  else none

/-- The problem of a value that is no truth value; its message shows the value. -/
def noBoolean (v : Value) : InputProblem :=
  if v.isWritable then .notBoolean v else .notNumeral .tooLongToWrite

/-- The decimal numeral of a number that is not negative. -/
def numeralOf (n : Int) : Except InputProblem Value :=
  if n < 0 then .error .notDigits
  else if (Value.int n).isWritable then .ok (.text (toString n))
  else .error (.notNumeral .tooLongToWrite)

/-- Brings a value to a type. -/
def VariableType.coerce (type : VariableType) (v : Value) : Except InputProblem Value :=
  match type with
  | .string =>
    match v with
    | .text s => .ok (.text s)
    | _ => .error (.wrongKind "string" v.kindName)
  | .address =>
    match v with
    | .text s => if isAddress s then .ok v else .error .notAddress
    | _ => .error .notAddress
  | .uint256 =>
    match v with
    -- Amounts are passed on as texts of digits.
    | .int n => numeralOf n
    | .text s => if isDigits s then .ok v else .error .notDigits
    | _ => .error .notDigits
  | .number =>
    match v with
    | .int n => .ok (.int n)
    | .float x => .ok (.float x)
    | .text s => numberOfText s
    | _ => .error (.wrongKind "number" v.kindName)
  | .boolean =>
    match v with
    | .bool b => .ok (.bool b)
    | .text s =>
      match booleanOfText? s with
      | some b => .ok (.bool b)
      | none => .error (noBoolean v)
    | _ => .error (noBoolean v)

/-! ### Defaults -/

/-- The default of a variable.  A text stands for a number or a truth value where the type asks for
one; a text that is no number stands for nothing. -/
def Variable.defaultValue (x : Variable) : Value :=
  match x.type, x.default with
  | .number, .text s =>
    match Numeral.readFloat s with
    | .ok f => .float f
    | .error _ => .null
  | .boolean, .text s => .bool (Text.lower (trimmed s) == "true")
  | _, v => v

/-! ### Binding -/

/-- Binds one variable: the input with its value, and what is wrong. -/
def Variable.bind (x : Variable) (bound : Rows) : Rows × List String :=
  let v := (bound.get? x.name).getD .null
  if v.isNull then
    if x.required then (bound, ["Missing required input: " ++ x.name])
    else
      let default := x.defaultValue
      (if default.isNull then bound else bound.put (.text x.name) default, [])
  else
    match x.type.coerce v with
    | .ok w => (bound.put (.text x.name) w, [])
    | .error e => (bound, ["Invalid input '" ++ x.name ++ "': " ++ e.message])

/-- Binds variables in order. -/
def bindAll : List Variable → Rows → Rows × List String
  | [], bound => (bound, [])
  | x :: xs, bound =>
    let (bound', errors) := x.bind bound
    let (final, more) := bindAll xs bound'
    (final, errors ++ more)

/-- Binds input to variables. -/
def bindInputs (declared : List Variable) (raw : Value) : Except Failure Rows := do
  let given ← (mappingOf raw).mapError fun e => .fault (.mapping e)
  let (bound, errors) := bindAll declared given
  if errors.isEmpty then return bound else .error (.invalid "Invalid input" errors)

end Workflow
