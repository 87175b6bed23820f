import Workflow.Decimal.Layout
import Workflow.Text.Base64
import Workflow.Text.Quoted
import Workflow.Value.Basic

/-!
# Writing JSON

The compact JSON text of a value.  Characters outside ASCII stand as themselves, byte strings are
written as base64 text, tuples as arrays, structs as what stands for them, and a number that is not
finite as `null`.  A table is an object if each of its keys has a text.
-/

namespace Workflow.Json

/-- A character of a JSON text. -/
def escapeChar (c : Char) : List Char :=
  if c == '"' || c == '\\' then ['\\', c]
  else if c == '\x08' then ['\\', 'b']
  else if c == '\t' then ['\\', 't']
  else if c == '\n' then ['\\', 'n']
  else if c == '\x0c' then ['\\', 'f']
  else if c == '\r' then ['\\', 'r']
  else if c.toNat < 0x20 then '\\' :: 'u' :: Quoted.hexCode 4 c.toNat
  else [c]

/-- A text in quotes. -/
def quoted (s : String) : String :=
  String.ofList ('"' :: (s.toList.flatMap escapeChar ++ ['"']))

/-- The text that stands for a key of a table; only texts, numbers and byte strings have one. -/
def keyText? : Value → Option String
  | .text s => some s
  | .int n => some (toString n)
  | .float x => some (Decimal.Layout.json.write x)
  | .bytes b => some (Base64.encode b)
  | _ => none

mutual

/-- The JSON text of a value. -/
def encode : Value → String
  | .null => "null"
  | .bool b => if b then "true" else "false"
  | .int n => toString n
  | .float x => Decimal.Layout.json.write x
  | .text s => quoted s
  | .bytes b => quoted (Base64.encode b)
  | .list xs => "[" ++ ",".intercalate (encodeItems xs) ++ "]"
  | .tuple xs => "[" ++ ",".intercalate (encodeItems xs) ++ "]"
  | .record fs => "\x7b" ++ ",".intercalate (encodeFields fs) ++ "\x7d"
  | .table rows => "\x7b" ++ ",".intercalate (encodeRows rows) ++ "\x7d"
  | .struct _ _ wire => encode wire
termination_by structural v => v

/-- The JSON texts of the items of a list. -/
def encodeItems : List Value → List String
  | [] => []
  | x :: xs => encode x :: encodeItems xs
termination_by structural xs => xs

/-- The JSON texts of the fields of a record. -/
def encodeFields : List (String × Value) → List String
  | [] => []
  | (name, x) :: fs => (quoted name ++ ":" ++ encode x) :: encodeFields fs
termination_by structural fs => fs

/-- The JSON texts of the rows of a table. -/
def encodeRows : List (Value × Value) → List String
  | [] => []
  | (key, x) :: rows => (quoted ((keyText? key).getD "") ++ ":" ++ encode x) :: encodeRows rows
termination_by structural rows => rows

end

mutual

/-- Whether every key in a value has a text. -/
def isWritable : Value → Bool
  | .list xs => itemsWritable xs
  | .tuple xs => itemsWritable xs
  | .record fs => fieldsWritable fs
  | .table rows => rowsWritable rows
  | .struct _ _ wire => isWritable wire
  | _ => true
termination_by structural v => v

/-- Whether every key in items has a text. -/
def itemsWritable : List Value → Bool
  | [] => true
  | x :: xs => isWritable x && itemsWritable xs
termination_by structural xs => xs

/-- Whether every key in the values of fields has a text. -/
def fieldsWritable : List (String × Value) → Bool
  | [] => true
  | (_, x) :: fs => isWritable x && fieldsWritable fs
termination_by structural fs => fs

/-- Whether every key in rows and in their values has a text. -/
def rowsWritable : List (Value × Value) → Bool
  | [] => true
  | (key, x) :: rows => (keyText? key).isSome && isWritable x && rowsWritable rows
termination_by structural rows => rows

end

/-- The JSON text of a value, if every key in it has a text. -/
def encode? (v : Value) : Option String := if isWritable v then some (encode v) else none

end Workflow.Json
