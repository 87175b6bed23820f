import Workflow.Value.Basic
import Workflow.Decimal.Binary

/-!
# Maps from loosely typed values

A map may be given as a record or as a list of pairs with keys of any kind that does not change.
A value that counts as false is the empty map.  Two keys are the same if they are equal as numbers
or equal otherwise; the row of the first one stays and takes the later value.
-/

namespace Workflow

/-- Why a value denotes no map. -/
inductive MappingError where
  /-- The value is no sequence. -/
  | notIterable (kind : String)
  /-- An element of a list of pairs is no sequence. -/
  | pairNotSequence (index : Nat)
  /-- An element of a list of pairs has a wrong length. -/
  | pairLength (index length : Nat)
  /-- A key may change. -/
  | unhashable (kind : String)
  deriving DecidableEq, Repr

/-- The wording of an error. -/
def MappingError.message : MappingError → String
  | .notIterable kind => "'" ++ kind ++ "' object is not iterable"
  | .pairNotSequence index =>
    "cannot convert dictionary update sequence element #" ++ toString index ++ " to a sequence"
  | .pairLength index length =>
    "dictionary update sequence element #" ++ toString index ++ " has length " ++ toString length
      ++ "; 2 is required"
  | .unhashable kind => "unhashable type: '" ++ kind ++ "'"

/-! ### Keys -/

/-- The number that a value is, as a fraction with a power of two; truth values count as one and
zero. -/
def exactNumber? : Value → Option (Int × Nat)
  | .bool b => some (if b then 1 else 0, 1)
  | .int n => some (n, 1)
  | .float x =>
    match Decimal.Binary.ofFloat x with
    | .finite negative significand exponent =>
      let (num, den) := Decimal.scaleByTwo significand exponent
      some (if negative then -(num : Int) else num, den)
    | _ => none
  | _ => none

mutual

/-- Whether two values are the same key. -/
def isSameKey : Value → Value → Bool
  | .null, .null => true
  | .text s, .text t => s == t
  | .bytes b, .bytes c => b == c
  | .tuple vs, .tuple ws => areSameKeys vs ws
  | v, w =>
    match exactNumber? v, exactNumber? w with
    | some (n, d), some (m, e) => n * e == m * d
    | _, _ =>
      match v, w with
      | .float x, .float y => x == y
      | _, _ => false
termination_by structural v => v

/-- Whether two rows of values are the same keys one by one. -/
def areSameKeys : List Value → List Value → Bool
  | [], [] => true
  | v :: vs, w :: ws => isSameKey v w && areSameKeys vs ws
  | _, _ => false
termination_by structural vs => vs

end

mutual

/-- The kind of the first part of a value that may change, so that the value cannot be a key. -/
def changeableKind? : Value → Option String
  | .tuple vs => changeableKindIn? vs
  | .list vs => some (Value.list vs).kindName
  | .record fs => some (Value.record fs).kindName
  | .table rows => some (Value.table rows).kindName
  | .struct kind _ _ => some kind.name
  | _ => none
termination_by structural v => v

/-- The kind of the first part of some values that may change. -/
def changeableKindIn? : List Value → Option String
  | [] => none
  | v :: vs => (changeableKind? v).orElse fun _ => changeableKindIn? vs
termination_by structural vs => vs

end

/-! ### Rows -/

/-- Values by keys of any kind in insertion order. -/
abbrev Rows := List (Value × Value)

namespace Rows

/-- The value of a key that is a text. -/
def get? (rows : Rows) (name : String) : Option Value :=
  (rows.find? (isSameKey ·.1 (.text name))).map (·.2)

/-- Gives a key a value. -/
def put (rows : Rows) (key v : Value) : Rows :=
  match rows with
  | [] => [(key, v)]
  | (k, w) :: rest => if isSameKey k key then (k, v) :: rest else (k, w) :: put rest key v

/-- The rows of named values. -/
def ofFields (fields : List (String × Value)) : Rows := fields.map fun (name, v) => (.text name, v)

/-- The names and values of rows whose keys are texts. -/
def toFields? : Rows → Option (List (String × Value))
  | [] => some []
  | (.text name, v) :: rows => (toFields? rows).map ((name, v) :: ·)
  | _ => none

/-- The value with the given rows: a record if all keys are texts. -/
def toValue (rows : Rows) : Value :=
  match rows.toFields? with
  | some fields => .record fields
  | none => .table rows

end Rows

/-! ### Maps -/

/-- The pair that the element at an index of a list of pairs is. -/
def pairOf (index : Nat) (v : Value) : Except MappingError (Value × Value) :=
  match v.elements? with
  | some [key, value] =>
    match changeableKind? key with
    | some kind => .error (.unhashable kind)
    | none => .ok (key, value)
  | some vs => .error (.pairLength index vs.length)
  | none => .error (.pairNotSequence index)

/-- The rows that a list of pairs writes, the first element with the given index. -/
def rowsFrom (index : Nat) (rows : Rows) : List Value → Except MappingError Rows
  | [] => .ok rows
  | v :: vs => do
    let (key, value) ← pairOf index v
    rowsFrom (index + 1) (rows.put key value) vs

/-- The map that a value denotes. -/
def mappingOf : Value → Except MappingError Rows
  | .record fs => .ok (Rows.ofFields fs)
  | .table rows => .ok rows
  | v =>
    if v.isTruthy then
      match v.elements? with
      | some vs => rowsFrom 0 [] vs
      | none => .error (.notIterable v.kindName)
    else .ok []

end Workflow
