import Workflow.Expression.Resolution
import Mathlib.Data.List.Basic

/-!
# Resolution and the expressions in a value

`resolveAll` succeeds or fails exactly as its expressions do when they are resolved one by one in
the order of `expressionsIn` (`resolveAll_outcome`): nothing but an expression can fail, and the
first one that fails decides.
-/

namespace Workflow

namespace Context

/-- Resolves expressions one by one; the first failure wins. -/
def resolveEach (c : Context) : List String → Except Failure Unit
  | [] => .ok ()
  | s :: rest =>
    match c.resolveText s with
    | .error e => .error e
    | .ok _ => c.resolveEach rest

theorem resolveEach_append (c : Context) (front back : List String) :
    c.resolveEach (front ++ back)
      = match c.resolveEach front with
        | .error e => .error e
        | .ok () => c.resolveEach back := by
  induction front with
  | nil => rfl
  | cons s rest ih =>
    rw [List.cons_append, resolveEach, resolveEach]
    cases c.resolveText s with
    | error e => rfl
    | ok w => exact ih

theorem resolveEach_eq_ok_iff (c : Context) (expressions : List String) :
    c.resolveEach expressions = .ok () ↔ ∀ s ∈ expressions, ∃ w, c.resolveText s = .ok w := by
  induction expressions with
  | nil => simp [resolveEach]
  | cons s rest ih =>
    rw [resolveEach, List.forall_mem_cons, ← ih]
    cases c.resolveText s with
    | error e => simp
    | ok w => simp

/-- A failure is that of an expression all of whose predecessors can be resolved. -/
theorem exists_of_resolveEach_eq_error {c : Context} {expressions : List String} {e : Failure}
    (h : c.resolveEach expressions = .error e) :
    ∃ front s back, expressions = front ++ s :: back ∧
      (∀ t ∈ front, ∃ w, c.resolveText t = .ok w) ∧ c.resolveText s = .error e := by
  induction expressions with
  | nil => cases h
  | cons s rest ih =>
    rw [resolveEach] at h
    cases hs : c.resolveText s with
    | error e' =>
      rw [hs] at h
      obtain rfl := Except.error.inj h
      exact ⟨[], s, rest, rfl, by simp, hs⟩
    | ok w =>
      rw [hs] at h
      obtain ⟨front, t, back, rfl, hfront, ht⟩ := ih h
      refine ⟨s :: front, t, back, rfl, ?_, ht⟩
      rw [List.forall_mem_cons]
      exact ⟨⟨w, hs⟩, hfront⟩

mutual

/-- A value is resolved as its expressions are. -/
theorem resolveAll_outcome (c : Context) (v : Value) :
    (c.resolveAll v).map (fun _ => ()) = c.resolveEach (expressionsIn v) := by
  match v with
  | .text s =>
    rw [resolveAll, expressionsIn]
    -- A text that is no expression stands for itself and is resolved without fail.
    cases hpath : Path.parse s.toList with
    | none => simp [resolveText, hpath, resolveEach, Except.map]
    | some p =>
      simp only [Option.isSome_some, ↓reduceIte, resolveEach]
      cases c.resolveText s <;> rfl
  | .record fs =>
    rw [resolveAll, expressionsIn, ← resolveFields_outcome c fs]
    cases c.resolveFields fs <;> rfl
  | .table rows =>
    rw [resolveAll, expressionsIn, ← resolveRows_outcome c rows]
    cases c.resolveRows rows <;> rfl
  | .list vs =>
    rw [resolveAll, expressionsIn, ← resolveItems_outcome c vs]
    cases c.resolveItems vs <;> rfl
  | .tuple vs =>
    rw [resolveAll, expressionsIn, ← resolveItems_outcome c vs]
    cases c.resolveItems vs <;> rfl
  | .null => rfl
  | .bool _ => rfl
  | .int _ => rfl
  | .float _ => rfl
  | .bytes _ => rfl
  | .struct .. => rfl

theorem resolveItems_outcome (c : Context) (vs : List Value) :
    (c.resolveItems vs).map (fun _ => ()) = c.resolveEach (expressionsInItems vs) := by
  match vs with
  | [] => rfl
  | v :: vs =>
    rw [resolveItems, expressionsInItems, resolveEach_append, ← resolveAll_outcome c v,
      ← resolveItems_outcome c vs]
    cases c.resolveAll v with
    | error e => rfl
    | ok w => cases c.resolveItems vs <;> rfl

theorem resolveFields_outcome (c : Context) (fs : List (String × Value)) :
    (c.resolveFields fs).map (fun _ => ()) = c.resolveEach (expressionsInFields fs) := by
  match fs with
  | [] => rfl
  | (name, v) :: fs =>
    rw [resolveFields, expressionsInFields, resolveEach_append, ← resolveAll_outcome c v,
      ← resolveFields_outcome c fs]
    cases c.resolveAll v with
    | error e => rfl
    | ok w => cases c.resolveFields fs <;> rfl

theorem resolveRows_outcome (c : Context) (rows : List (Value × Value)) :
    (c.resolveRows rows).map (fun _ => ()) = c.resolveEach (expressionsInRows rows) := by
  match rows with
  | [] => rfl
  | (key, v) :: rows =>
    rw [resolveRows, expressionsInRows, resolveEach_append, ← resolveAll_outcome c v,
      ← resolveRows_outcome c rows]
    cases c.resolveAll v with
    | error e => rfl
    | ok w => cases c.resolveRows rows <;> rfl

end

/-- Fields in which some expression cannot be resolved cannot be resolved either. -/
theorem resolveFields_ne_ok {c : Context} {fs : List (String × Value)} {s : String} {e : Failure}
    (hs : s ∈ expressionsInFields fs) (he : c.resolveText s = .error e)
    (output : List (String × Value)) : c.resolveFields fs ≠ .ok output := by
  intro hok
  have h := resolveFields_outcome c fs
  rw [hok] at h
  obtain ⟨w, hw⟩ := (resolveEach_eq_ok_iff c _).mp h.symm s hs
  rw [he] at hw
  cases hw

end Context

end Workflow
