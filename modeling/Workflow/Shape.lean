import Workflow.Place
import Workflow.Value.Basic

/-!
# Reading values of a declared shape

A shape reads a value strictly: nothing is converted, and the first part that does not fit is
reported with its place.  The fields of a record are read in the order in which the record holds
them; only then missing fields are looked for, in the order of the declaration.
-/

namespace Workflow.Shape

/-- Why a value does not have a shape. -/
inductive Problem where
  /-- The value is of the wrong kind. -/
  | expected (wanted : String) (got : String)
  /-- A record has a field that was not declared. -/
  | unknownField (name : String)
  /-- A record lacks a field that has no default. -/
  | missingField (name : String)
  /-- A text is none of the names of the record kinds. -/
  | unknownTag (tag : String)
  /-- A text is none of the allowed ones. -/
  | unknownChoice (choice : String)
  deriving DecidableEq, Repr

/-- The wording of a problem. -/
def Problem.message : Problem → String
  | .expected wanted got => "Expected `" ++ wanted ++ "`, got `" ++ got ++ "`"
  | .unknownField name => "Object contains unknown field `" ++ name ++ "`"
  | .missingField name => "Object missing required field `" ++ name ++ "`"
  | .unknownTag tag => "Invalid value '" ++ tag ++ "'"
  | .unknownChoice choice => "Invalid enum value '" ++ choice ++ "'"

/-- A problem at a place. -/
structure Mismatch where
  /-- What is wrong. -/
  problem : Problem
  /-- Where it is wrong. -/
  place : Place
  deriving DecidableEq, Repr

/-- The wording of a mismatch. -/
def Mismatch.message (m : Mismatch) : String := m.problem.message ++ m.place.remark

/-- The result of reading a value. -/
abbrev Reading (α : Type) := Except Mismatch α

/-- The kind of a value, as messages about shapes name it. -/
def kindName : Value → String
  | .null => "null"
  | .bool _ => "bool"
  | .int _ => "int"
  | .float _ => "float"
  | .text _ => "str"
  | .bytes _ => "bytes"
  | .list _ => "array"
  | .tuple _ => "array"
  | .record _ => "object"
  | .table _ => "object"
  | .struct kind _ _ => kind.name

/-- Refuses the whole value. -/
def fail {α : Type} (problem : Problem) : Reading α := .error ⟨problem, []⟩

/-- Refuses a value of a wrong kind. -/
def mismatch {α : Type} (wanted : String) (v : Value) : Reading α :=
  fail (.expected wanted (kindName v))

/-- A reading of a part, its place counted from the whole. -/
def within {α : Type} (step : PlaceStep) (r : Reading α) : Reading α :=
  r.mapError fun m => { m with place := step :: m.place }

/-! ### Single values -/

/-- Any value. -/
def anything (v : Value) : Reading Value := .ok v

/-- A text. -/
def text : Value → Reading String
  | .text s => .ok s
  | v => mismatch "str" v

/-- A text or nothing. -/
def textOrNull : Value → Reading (Option String)
  | .null => .ok none
  | .text s => .ok (some s)
  | v => mismatch "str | null" v

/-- A truth value. -/
def bool : Value → Reading Bool
  | .bool b => .ok b
  | v => mismatch "bool" v

/-- A truth value or nothing. -/
def boolOrNull : Value → Reading (Option Bool)
  | .null => .ok none
  | .bool b => .ok (some b)
  | v => mismatch "bool | null" v

/-- An integer. -/
def int : Value → Reading Int
  | .int n => .ok n
  | v => mismatch "int" v

/-- One of the named choices. -/
def choice {α : Type} (choices : List (String × α)) : Value → Reading α
  | .text s => match choices.lookup s with
    | some a => .ok a
    | none => fail (.unknownChoice s)
  | v => mismatch "str" v

/-- One of the named choices or nothing. -/
def choiceOrNull {α : Type} (choices : List (String × α)) : Value → Reading (Option α)
  | .null => .ok none
  | .text s => match choices.lookup s with
    | some a => .ok (some a)
    | none => fail (.unknownChoice s)
  | v => mismatch "str | null" v

/-! ### Lists and maps -/

/-- Reads items one after the other; `index` is the index of the first. -/
def itemsFrom {α : Type} (item : Value → Reading α) (index : Nat) :
    List Value → Reading (List α)
  | [] => .ok []
  | v :: vs => do
    let a ← within (.item index) (item v)
    let as ← itemsFrom item (index + 1) vs
    return a :: as

/-- A list with items of one shape. -/
def list {α : Type} (item : Value → Reading α) (v : Value) : Reading (List α) :=
  match v.items? with
  | some vs => itemsFrom item 0 vs
  | none => mismatch "array" v

/-- Reads the values of a map one after the other. -/
def entries {α : Type} (value : Value → Reading α) :
    List (String × Value) → Reading (List (String × α))
  | [] => .ok []
  | (name, v) :: fs => do
    let a ← within .entry (value v)
    let as ← entries value fs
    return (name, a) :: as

/-- A map with values of one shape. -/
def map {α : Type} (value : Value → Reading α) : Value → Reading (List (String × α))
  | .record fs => entries value fs
  | v => mismatch "object" v

/-- A map with values of one shape, or nothing. -/
def mapOrNull {α : Type} (value : Value → Reading α) :
    Value → Reading (Option (List (String × α)))
  | .null => .ok none
  | .record fs => (entries value fs).map some
  | v => mismatch "object | null" v

/-! ### Records -/

/-- How the declared fields of a record are read: for a declared name, how its value changes what
has been read so far. -/
abbrev Setter (σ : Type) := String → Option (σ → Value → Reading σ)

/-- Reads fields in order; a field that was not declared is refused if `strict`. -/
def readFields {σ : Type} (strict : Bool) (setter : Setter σ) (s : σ) :
    List (String × Value) → Reading σ
  | [] => .ok s
  | (name, v) :: fs =>
    match setter name with
    | some set => do
      let s' ← within (.field name) (set s v)
      readFields strict setter s' fs
    | none => if strict then fail (.unknownField name) else readFields strict setter s fs

/-- Checks that a record has the fields without default. -/
def requireFields (fields : List (String × Value)) : List String → Reading Unit
  | [] => .ok ()
  | name :: names =>
    if Fields.contains fields name then requireFields fields names else fail (.missingField name)

/-- A record with the given declared fields, starting from the defaults. -/
def record {σ : Type} (strict : Bool) (required : List String) (setter : Setter σ) (defaults : σ) :
    Value → Reading σ
  | .record fs => do
    let s ← readFields strict setter defaults fs
    requireFields fs required
    return s
  | v => mismatch "object" v

/-- A record or nothing. -/
def orNull {α : Type} (shape : Value → Reading α) : Value → Reading (Option α)
  | .null => .ok none
  | .record fs => (shape (.record fs)).map some
  | v => mismatch "object | null" v

end Workflow.Shape
