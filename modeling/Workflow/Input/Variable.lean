import Workflow.Definition.Shape

/-!
# Declared variables
-/

namespace Workflow

/-- The type of a variable. -/
inductive VariableType where
  | string
  | number
  | address
  | uint256
  | boolean
  deriving DecidableEq, Repr

/-- The name of a type. -/
def VariableType.name : VariableType → String
  | .string => "string"
  | .number => "number"
  | .address => "address"
  | .uint256 => "uint256"
  | .boolean => "boolean"

/-- The types by name. -/
def VariableType.choices : List (String × VariableType) :=
  [VariableType.string, .number, .address, .uint256, .boolean].map fun t => (t.name, t)

/-- A declared input variable. -/
structure Variable where
  /-- The name. -/
  name : String := ""
  /-- The type. -/
  type : VariableType := .string
  /-- Whether the caller must supply a value. -/
  required : Bool := false
  /-- The value where the caller supplies none. -/
  default : Value := .null
  /-- A remark. -/
  description : Option String := none

/-- Reads a default value, which is a single value or nothing. -/
def Variable.readDefault : Value → Shape.Reading Value
  | .null => .ok .null
  | .bool b => .ok (.bool b)
  | .int n => .ok (.int n)
  | .float x => .ok (.float x)
  | .text s => .ok (.text s)
  | v => Shape.mismatch "bool | int | float | str | null" v

/-- The fields of a variable. -/
def Variable.setter : Shape.Setter Variable
  | "name" => some fun x v => return { x with name := ← Shape.text v }
  | "type" => some fun x v => return { x with type := ← Shape.choice VariableType.choices v }
  | "required" => some fun x v => return { x with required := ← Shape.bool v }
  | "default" => some fun x v => return { x with default := ← readDefault v }
  | "description" => some fun x v => return { x with description := ← Shape.textOrNull v }
  | _ => none

/-- Reads a variable. -/
def Variable.ofValue? : Value → Shape.Reading Variable := Shape.record true ["name"] setter {}

/-- Reads a list of variables. -/
def Variable.listOfValue? : Value → Shape.Reading (List Variable) := Shape.list ofValue?

end Workflow
