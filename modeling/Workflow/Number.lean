import Workflow.Failure.Basic

/-!
# Numbers

A number is an integer, a double, or a truth value that counts as one or zero.  The clock and what
can be tuned about a run are meant to be numbers, but they arrive as values of any kind: what is
no number is refused where it is reckoned with, and a pause can be doubled if it is a sequence.
-/

namespace Workflow

/-- A number. -/
inductive Number where
  /-- An integer. -/
  | int (n : Int)
  /-- A double. -/
  | float (x : Float)
  /-- A truth value. -/
  | truth (b : Bool)
  deriving BEq, Repr

namespace Number

/-- A number as a value. -/
def toValue : Number → Value
  | .int n => .int n
  | .float x => .float x
  | .truth b => .bool b

/-- The number that a value is. -/
def ofValue? : Value → Option Number
  | .int n => some (.int n)
  | .float x => some (.float x)
  | .bool b => some (.truth b)
  | _ => none

/-- The integer that a truth value counts as. -/
def ofTruth (b : Bool) : Int := if b then 1 else 0

/-- A finite double without its fraction. -/
def wholePart (negative : Bool) (significand : Nat) (exponent : Int) : Int :=
  let (num, den) := Decimal.scaleByTwo significand exponent
  Numeral.signed negative (num / den)

/-- A number without its fraction. -/
def truncated : Number → Except Failure Int
  | .int n => .ok n
  | .truth b => .ok (ofTruth b)
  | .float x =>
    match Decimal.Binary.ofFloat x with
    | .finite negative significand exponent => .ok (wholePart negative significand exponent)
    | .infinite _ => .error (.fault .infiniteInteger)
    | .nan => .error (.fault .nanInteger)

/-- A number doubled `times` times.  An integer stays exact; a power of two beyond the range of
doubles cannot be applied to a double. -/
def doubled (times : Nat) : Number → Except Failure Number
  | .int n => .ok (.int (n * Nat.pow 2 times))
  | .truth b => .ok (.int (ofTruth b * Nat.pow 2 times))
  | .float x =>
    if times < 1024 then .ok (.float (x * Decimal.floatOfRatio false (Nat.pow 2 times) 1))
    else .error (.fault .integerTooLarge)

/-- A number added to an integer. -/
def addedTo (n : Int) : Number → Except Failure Number
  | .int m => .ok (.int (n + m))
  | .truth b => .ok (.int (n + ofTruth b))
  | .float x =>
    let y := Decimal.floatOfRatio (n < 0) n.natAbs 1
    if y.isFinite then .ok (.float (y + x)) else .error (.fault .integerTooLarge)

/-- A count that no run reaches. -/
def unlimited : Nat := Nat.pow 2 64

/-- The greatest count up to a number; what is no number limits nothing. -/
def count : Number → Nat
  | .int n => n.toNat
  | .truth b => (ofTruth b).toNat
  | .float x =>
    match Decimal.Binary.ofFloat x with
    | .finite negative significand exponent => (wholePart negative significand exponent).toNat
    | .infinite negative => if negative then 0 else unlimited
    | .nan => unlimited

end Number

/-! ### Values as numbers -/

namespace Value

/-- The whole number that a value stands for; a text stands for the numeral it holds. -/
def whole (v : Value) : Except Failure Int :=
  match Number.ofValue? v, v.text? with
  | some x, _ => x.truncated
  | none, some s => (Numeral.readInt s).mapError fun e => .fault (.numeral e)
  | none, none => .error (.fault (.notWhole v.kindName))

/-- A value added to an integer. -/
def addedTo (n : Int) (v : Value) : Except Failure Value :=
  match Number.ofValue? v with
  | some x => (x.addedTo n).map Number.toValue
  | none => .error (.fault (.noArithmetic "+" (Value.int n).kindName v.kindName))

/-- The greatest count up to a value. -/
def count (v : Value) : Except Failure Nat :=
  match Number.ofValue? v with
  | some x => .ok x.count
  | none => .error (.fault (.noOrder ">" (Value.int 0).kindName v.kindName))

/-- The most times that the length of a sequence can be doubled. -/
def doublingLimit : Nat := 62

/-- A sequence put behind itself, `times` times over. -/
def selfAppended {α : Type} (append : α → α → α) : Nat → α → α
  | 0, a => a
  | times + 1, a => selfAppended append times (append a a)

/-- A value doubled `times` times: a number counts twice, a sequence is repeated. -/
def doubled (times : Nat) (v : Value) : Except Failure Value :=
  let repeated := fun (w : Value) =>
    if times ≤ doublingLimit then .ok w else .error (.fault .countTooLarge)
  match v with
  | .text s => repeated (.text (selfAppended (· ++ ·) times s))
  | .bytes bs => repeated (.bytes (selfAppended (· ++ ·) times bs))
  | .list vs => repeated (.list (selfAppended (· ++ ·) times vs))
  | .tuple vs => repeated (.tuple (selfAppended (· ++ ·) times vs))
  | _ =>
    match Number.ofValue? v with
    | some x => (x.doubled times).map Number.toValue
    | none => .error (.fault (.noArithmetic "*" v.kindName (Value.int 0).kindName))

end Value

end Workflow
