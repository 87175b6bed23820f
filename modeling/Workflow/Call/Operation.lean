import Workflow.Abi.Arguments
import Workflow.Call.Basic
import Workflow.Expression.Resolution

/-!
# Operations as calls

An operation of a definition becomes a call once its expressions are resolved.  The call data comes
from the first of three sources that the operation has: prepared call data, a selector with
function and arguments, or a selector alone.
-/

namespace Workflow

/-- The target of an operation. -/
def Operation.resolveTarget (op : Operation) (c : Context) : Except Failure String := do
  let v ← c.resolveText op.target
  match v with
  | .text s =>
    if isAddress s then return s else .error (.badTarget (.text op.target) v)
  | _ => .error (.showing v (.badTarget (.text op.target) v))

/-- What messages call the amount of an operation. -/
def Operation.amountLabel (op : Operation) : String := "value for '" ++ op.label ++ "'"

/-- The amount of an operation; an amount that is left out is zero. -/
def Operation.resolveAmount (op : Operation) (c : Context) : Except Failure Nat :=
  match op.amount.map Amount.toValue with
  | none => .ok 0
  | some v =>
    if isLeftOut v then .ok 0
    else do unsignedWord op.amountLabel (← c.resolve v)

/-- The call data of an operation. -/
def Operation.resolveData [Json.Nesting] (op : Operation) (c : Context) : Except Failure String :=
  match op.calldata, op.selector, op.fragment, op.arguments with
  | some prepared, _, _, _ => do hexText "calldata" (← c.resolveText prepared)
  | none, some selector, some fragment, some arguments => do
    let args ← c.resolveFields arguments
    Abi.calldata fragment.toValue (.record args) (.text selector)
  | none, some selector, _, _ => hexText "selector" (.text selector)
  | none, none, _, _ => .error (.misconfigured .incompleteOperation)

/-- The call of an operation. -/
def Operation.toCall [Json.Nesting] (op : Operation) (c : Context) : Except Failure Call := do
  let target ← op.resolveTarget c
  let amount ← op.resolveAmount c
  let data ← op.resolveData c
  return ⟨target, amount, data⟩

end Workflow
