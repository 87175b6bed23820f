import Workflow.Text.Base64
import Workflow.Value.Basic

/-!
# Values that every format can hold

The portable form of a value has no byte strings and no structs in it: a byte string becomes its
Base64 text and a struct the object that stands for it.  Everything else stays as it is.
-/

namespace Workflow.Value

mutual

/-- The portable form of a value. -/
def portable : Value → Value
  | .bytes bs => .text (Base64.encode bs)
  | .list vs => .list (portableItems vs)
  | .tuple vs => .tuple (portableItems vs)
  | .record fs => .record (portableFields fs)
  | .table rows => .table (portableRows rows)
  | .struct _ _ wire => portable wire
  | v => v
termination_by structural v => v

/-- The portable forms of items. -/
def portableItems : List Value → List Value
  | [] => []
  | v :: vs => portable v :: portableItems vs
termination_by structural vs => vs

/-- The portable forms of the values of fields. -/
def portableFields : List (String × Value) → List (String × Value)
  | [] => []
  | (name, v) :: fs => (name, portable v) :: portableFields fs
termination_by structural fs => fs

/-- The portable forms of the keys and values of rows. -/
def portableRows : List (Value × Value) → List (Value × Value)
  | [] => []
  | (key, v) :: rows => (portable key, portable v) :: portableRows rows
termination_by structural rows => rows

end

end Workflow.Value
