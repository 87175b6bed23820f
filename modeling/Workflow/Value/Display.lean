import Workflow.Decimal.Layout
import Workflow.Decimal.Numeral
import Workflow.Text.Quoted
import Workflow.Value.Basic

/-!
# Values in messages

`Value.shown` is the text of a value inside a message, with texts quoted; `Value.plainText` is the
text of a value on its own, which differs for texts only.  An integer is written with at most
`Numeral.digitLimit` digits; `Value.isWritable` says whether no integer in a value is longer.
-/

namespace Workflow.Value

mutual

/-- The text of a value inside a message. -/
def shown : Value → String
  | .null => "None"
  | .bool b => if b then "True" else "False"
  | .int n => toString n
  | .float x => Decimal.Layout.plain.write x
  | .text s => Quoted.text s
  | .bytes b => Quoted.bytes b
  | .list xs => "[" ++ ", ".intercalate (shownItems xs) ++ "]"
  | .tuple [x] => "(" ++ shown x ++ ",)"
  | .tuple xs => "(" ++ ", ".intercalate (shownItems xs) ++ ")"
  | .record fs => "\x7b" ++ ", ".intercalate (shownFields fs) ++ "\x7d"
  | .table rows => "\x7b" ++ ", ".intercalate (shownRows rows) ++ "\x7d"
  | .struct kind fs _ => kind.name ++ "(" ++ ", ".intercalate (shownMembers fs) ++ ")"
termination_by structural v => v

/-- The texts of the items of a list. -/
def shownItems : List Value → List String
  | [] => []
  | x :: xs => shown x :: shownItems xs
termination_by structural xs => xs

/-- The texts of the fields of a record. -/
def shownFields : List (String × Value) → List String
  | [] => []
  | (name, x) :: fs => (Quoted.text name ++ ": " ++ shown x) :: shownFields fs
termination_by structural fs => fs

/-- The texts of the fields of a struct. -/
def shownMembers : List (String × Value) → List String
  | [] => []
  | (name, x) :: fs => (name ++ "=" ++ shown x) :: shownMembers fs
termination_by structural fs => fs

/-- The texts of the rows of a table. -/
def shownRows : List (Value × Value) → List String
  | [] => []
  | (key, x) :: rows => (shown key ++ ": " ++ shown x) :: shownRows rows
termination_by structural rows => rows

end

/-- The text of a value on its own. -/
def plainText : Value → String
  | .text s => s
  | v => shown v

/-- A text cut to `width` characters, the last three of them dots where something is cut off. -/
def abridged (width : Nat) (s : String) : String :=
  if s.length ≤ width then s else String.ofList (s.toList.take (width - 3)) ++ "..."

/-! ### Long integers -/

mutual

/-- Whether all integers in a value have few enough digits for a message. -/
def isWritable : Value → Bool
  | .int n => n.natAbs < Nat.pow 10 Numeral.digitLimit
  | .list xs => areWritable xs
  | .tuple xs => areWritable xs
  | .record fs => fieldsWritable fs
  | .table rows => rowsWritable rows
  | .struct _ fs _ => fieldsWritable fs
  | _ => true
termination_by structural v => v

/-- Whether all integers in some values have few enough digits for a message. -/
def areWritable : List Value → Bool
  | [] => true
  | x :: xs => isWritable x && areWritable xs
termination_by structural xs => xs

/-- Whether all integers in some fields have few enough digits for a message. -/
def fieldsWritable : List (String × Value) → Bool
  | [] => true
  | (_, x) :: fs => isWritable x && fieldsWritable fs
termination_by structural fs => fs

/-- Whether all integers in some rows have few enough digits for a message. -/
def rowsWritable : List (Value × Value) → Bool
  | [] => true
  | (key, x) :: rows => isWritable key && isWritable x && rowsWritable rows
termination_by structural rows => rows

end

end Workflow.Value
