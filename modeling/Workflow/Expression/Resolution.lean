import Workflow.Context
import Workflow.Expression.Path
import Workflow.Value.Portable

/-!
# Resolving expressions

An expression stands for the value to which its path leads in the context of a run.  Only a text
that is an expression as a whole is resolved; every other value stands for itself.  In
`resolveAll` every expression inside a value is replaced by its value, which is not searched for
further expressions.
-/

namespace Workflow

/-- The path that a value is as an expression. -/
def expressionPath? : Value → Option Path
  | .text s => Path.parse s.toList
  | _ => none

/-- Whether a value is an expression. -/
def isExpression (v : Value) : Bool := (expressionPath? v).isSome

/-! ### Walking a path -/

/-- Why a walk stops. -/
inductive DeadEnd where
  /-- There is nothing where the segment leads. -/
  | nothing
  /-- The index has too many digits. -/
  | unreadableIndex (e : Numeral.Error)

/-- The failure of an expression whose walk stops. -/
def DeadEnd.failure (expression : String) : DeadEnd → Failure
  | .nothing => .unresolved expression
  | .unreadableIndex e => .fault (.numeral e)

/-- What can be walked into: a struct is seen as the object that stands for it. -/
def opened : Value → Value
  | .struct _ _ wire => wire.portable
  | v => v

/-- The item at an index given by its digits. -/
def itemAt (digits : List Char) (items : List Value) : Except DeadEnd Value :=
  if Numeral.digitLimit < digits.length then
    .error (.unreadableIndex (.tooManyDigits digits.length))
  else
    match items[Text.digitsValue digits]? with
    | some v => .ok v
    | none => .error .nothing

/-- One step of a walk. -/
def Segment.step (v : Value) : Segment → Except DeadEnd Value
  | .key name =>
    match ((opened v).named?).bind (Fields.get? · (String.ofList name)) with
    | some w => .ok w
    | none => .error .nothing
  | .index digits =>
    match (opened v).items? with
    | some items => itemAt digits items
    | none => .error .nothing

/-- A walk along segments. -/
def walk (v : Value) : List Segment → Except DeadEnd Value
  | [] => .ok v
  | s :: ss => do walk (← s.step v) ss

mutual

/-- A value with plain lists for its tuples. -/
def detached : Value → Value
  | .list vs => .list (detachedItems vs)
  | .tuple vs => .list (detachedItems vs)
  | .record fs => .record (detachedFields fs)
  | .table rows => .table (detachedRows rows)
  | v => v
termination_by structural v => v

/-- Items with plain lists for their tuples. -/
def detachedItems : List Value → List Value
  | [] => []
  | v :: vs => detached v :: detachedItems vs
termination_by structural vs => vs

/-- Fields with plain lists for their tuples. -/
def detachedFields : List (String × Value) → List (String × Value)
  | [] => []
  | (name, v) :: fs => (name, detached v) :: detachedFields fs
termination_by structural fs => fs

/-- Rows with plain lists for the tuples among their values. -/
def detachedRows : List (Value × Value) → List (Value × Value)
  | [] => []
  | (key, v) :: rows => (key, detached v) :: detachedRows rows
termination_by structural rows => rows

end

/-! ### Resolving -/

/-- The value of an expression with the given path. -/
def Context.resolvePath (c : Context) (expression : String) (p : Path) : Except Failure Value :=
  match walk (.record c.root) (.key p.head :: p.tail) with
  | .ok v => .ok (detached v)
  | .error e => .error (e.failure expression)

/-- The value of a text. -/
def Context.resolveText (c : Context) (s : String) : Except Failure Value :=
  match Path.parse s.toList with
  | some p => c.resolvePath s p
  | none => .ok (.text s)

/-- The value of a single expression; any other value stands for itself. -/
def Context.resolve (c : Context) : Value → Except Failure Value
  | .text s => c.resolveText s
  | v => .ok v

mutual

/-- A value with all expressions in it resolved. -/
def Context.resolveAll (c : Context) (v : Value) : Except Failure Value :=
  match v with
  | .text s => c.resolveText s
  | .record fs => (c.resolveFields fs).map .record
  | .table rows => (c.resolveRows rows).map .table
  | .list vs => (c.resolveItems vs).map .list
  | .tuple vs => (c.resolveItems vs).map .list
  | v => .ok v
termination_by structural v

/-- Items with all expressions in them resolved, the first failure winning. -/
def Context.resolveItems (c : Context) (vs : List Value) : Except Failure (List Value) :=
  match vs with
  | [] => .ok []
  | v :: vs =>
    match c.resolveAll v with
    | .error e => .error e
    | .ok w => (c.resolveItems vs).map (w :: ·)
termination_by structural vs

/-- Fields with all expressions in them resolved, the first failure winning. -/
def Context.resolveFields (c : Context) (fs : List (String × Value)) :
    Except Failure (List (String × Value)) :=
  match fs with
  | [] => .ok []
  | (name, v) :: fs =>
    match c.resolveAll v with
    | .error e => .error e
    | .ok w => (c.resolveFields fs).map ((name, w) :: ·)
termination_by structural fs

/-- Rows with all expressions in their values resolved, the first failure winning. -/
def Context.resolveRows (c : Context) (rows : List (Value × Value)) :
    Except Failure (List (Value × Value)) :=
  match rows with
  | [] => .ok []
  | (key, v) :: rows =>
    match c.resolveAll v with
    | .error e => .error e
    | .ok w => (c.resolveRows rows).map ((key, w) :: ·)
termination_by structural rows

end

mutual

/-- The expressions in a value, in the order in which they are resolved. -/
def expressionsIn : Value → List String
  | .text s => if (Path.parse s.toList).isSome then [s] else []
  | .record fs => expressionsInFields fs
  | .table rows => expressionsInRows rows
  | .list vs => expressionsInItems vs
  | .tuple vs => expressionsInItems vs
  | _ => []
termination_by structural v => v

/-- The expressions in items. -/
def expressionsInItems : List Value → List String
  | [] => []
  | v :: vs => expressionsIn v ++ expressionsInItems vs
termination_by structural vs => vs

/-- The expressions in fields. -/
def expressionsInFields : List (String × Value) → List String
  | [] => []
  | (_, v) :: fs => expressionsIn v ++ expressionsInFields fs
termination_by structural fs => fs

/-- The expressions in the values of rows. -/
def expressionsInRows : List (Value × Value) → List String
  | [] => []
  | (_, v) :: rows => expressionsIn v ++ expressionsInRows rows
termination_by structural rows => rows

end

end Workflow
