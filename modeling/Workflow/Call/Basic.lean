import Workflow.Value.Basic

/-!
# Contract calls
-/

namespace Workflow

/-- A contract call. -/
structure Call where
  /-- The address of the contract. -/
  target : String
  /-- The amount sent along. -/
  amount : Nat
  /-- The call data as hexadecimal text. -/
  data : String
  deriving DecidableEq, Repr

/-- A contract call as handed in, its parts unchecked. -/
structure UncheckedCall where
  /-- The address of the contract. -/
  target : Value
  /-- The amount sent along. -/
  amount : Value
  /-- The call data. -/
  data : Value

/-- A call as handed in. -/
def Call.unchecked (call : Call) : UncheckedCall :=
  ⟨.text call.target, .int call.amount, .text call.data⟩

end Workflow
