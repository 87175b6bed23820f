import Workflow.Fields

/-!
# Values

The data that flows through a workflow: what a definition holds at its open places, what callers
supply, what steps return.  Beside the JSON kinds there are byte strings, fixed tuples and structs
of declared kinds.  Integers are unbounded and apart from floating-point numbers.
-/

namespace Workflow

/-- A declared kind of structs, whose fields may be set after a struct is made. -/
structure StructKind where
  /-- The name of the kind. -/
  name : String
  /-- The name together with the place where the kind is declared. -/
  path : String
  deriving BEq, DecidableEq, Repr

/-- A value of any kind. -/
inductive Value where
  /-- The absent value. -/
  | null
  /-- A truth value. -/
  | bool (b : Bool)
  /-- An integer. -/
  | int (n : Int)
  /-- A floating-point number. -/
  | float (x : Float)
  /-- A text. -/
  | text (s : String)
  /-- A byte string. -/
  | bytes (b : List UInt8)
  /-- A list. -/
  | list (items : List Value)
  /-- A fixed sequence, kept apart from lists. -/
  | tuple (items : List Value)
  /-- Named values in insertion order, no name twice. -/
  | record (fields : List (String × Value))
  /-- Values by keys of any kind in insertion order, no key twice and not all of them texts. -/
  | table (rows : List (Value × Value))
  /-- A struct with its fields in the order of the declaration, and the object that stands for it
  where only plain values may be. -/
  | struct (kind : StructKind) (fields : List (String × Value)) (wire : Value)
  deriving Inhabited, BEq, Repr

namespace Value

/-- The items of a list or tuple. -/
def items? : Value → Option (List Value)
  | .list xs => some xs
  | .tuple xs => some xs
  | _ => none

/-- The characters of a text. -/
def text? : Value → Option String
  | .text s => some s
  | _ => none

/-- The fields of a record. -/
def fields? : Value → Option (List (String × Value))
  | .record fs => some fs
  | _ => none

/-- The rows whose keys are texts, as fields. -/
def namedRows (rows : List (Value × Value)) : List (String × Value) :=
  rows.filterMap fun (key, v) => key.text?.map (·, v)

/-- The values under texts in a map. -/
def named? : Value → Option (List (String × Value))
  | .record fs => some fs
  | .table rows => some (namedRows rows)
  | _ => none

/-- Whether the value is absent. -/
def isNull : Value → Bool
  | .null => true
  | _ => false

/-- Whether a condition on the value holds: nothing, zero and empty values count as false. -/
def isTruthy : Value → Bool
  | .null => false
  | .bool b => b
  | .int n => n != 0
  | .float x => x != 0
  | .text s => !s.isEmpty
  | .bytes b => !b.isEmpty
  | .list xs => !xs.isEmpty
  | .tuple xs => !xs.isEmpty
  | .record fs => !fs.isEmpty
  | .table rows => !rows.isEmpty
  | .struct _ _ _ => true

/-- The name of a value's kind in messages about single values. -/
def kindName : Value → String
  | .null => "NoneType"
  | .bool _ => "bool"
  | .int _ => "int"
  | .float _ => "float"
  | .text _ => "str"
  | .bytes _ => "bytes"
  | .list _ => "list"
  | .tuple _ => "tuple"
  | .record _ => "dict"
  | .table _ => "dict"
  | .struct kind _ _ => kind.name

/-- The name of a value's kind with the place where the kind is declared. -/
def kindPath : Value → String
  | .struct kind _ _ => kind.path
  | v => v.kindName

/-- A text as the list of its characters. -/
def characters (s : String) : List Value := s.toList.map fun c => .text c.toString

/-- The elements of a value that is a sequence. -/
def elements? : Value → Option (List Value)
  | .list vs => some vs
  | .tuple vs => some vs
  | .text s => some (characters s)
  | .bytes bs => some (bs.map fun b => .int b.toNat)
  | .record fs => some (fs.map fun (name, _) => .text name)
  | .table rows => some (rows.map (·.1))
  | _ => none

end Value

end Workflow
