import Workflow.Input.Binding
import Workflow.Proofs.Outcomes
import Workflow.Proofs.Value.Mapping

/-!
# What binding does to an input

Variables are bound one behind the other, each to the map that the ones in front of it have left.
Where their names are distinct, a variable finds the value there that the input gives it
(`Variable.valueIn_enter_of_ne`).  So what it is bound to and what is wrong with it depend on this
value alone: the problems are those of the single variables (`bindAll_snd`), and the map is the
input with the values that the variables are bound to (`valueIn_bindAll`, `getElem?_bindAll`,
`keys_bindAll`).

An input is bound exactly if no variable has a problem (`bindInputs_eq_ok_iff`), and otherwise all
problems are reported (`bindInputs_eq_error_iff`).
-/

namespace Workflow

/-! ### One variable -/

/-- The value of a variable in a map, which is nothing if it has none there. -/
def Variable.valueIn (x : Variable) (rows : Rows) : Value := (rows.get? x.name).getD .null

/-- What a variable is bound to in place of its value, if to anything. -/
def Variable.bound? (x : Variable) (v : Value) : Option Value :=
  if v.isNull then
    if x.required || x.defaultValue.isNull then none else some x.defaultValue
  else (x.type.coerce v).toOption

/-- What is wrong with the value of a variable, if anything. -/
def Variable.problem? (x : Variable) (v : Value) : Option String :=
  if v.isNull then if x.required then some ("Missing required input: " ++ x.name) else none
  else
    match x.type.coerce v with
    | .ok _ => none
    | .error e => some ("Invalid input '" ++ x.name ++ "': " ++ e.message)

theorem Variable.isSome_bound?_null (x : Variable) :
    (x.bound? .null).isSome = (!x.required && !x.defaultValue.isNull) := by
  have hbound : x.bound? .null = if x.required || x.defaultValue.isNull then none
      else some x.defaultValue := rfl
  rw [hbound]
  cases x.required <;> cases x.defaultValue.isNull <;> rfl

/-- A map with the value that a variable is bound to. -/
def Variable.enter (x : Variable) (rows : Rows) : Option Value → Rows
  | some w => rows.put (.text x.name) w
  | none => rows

theorem Variable.bind_eq (x : Variable) (rows : Rows) :
    x.bind rows = (x.enter rows (x.bound? (x.valueIn rows)),
      (x.problem? (x.valueIn rows)).toList) := by
  rw [Variable.bind, Variable.bound?, Variable.problem?, ← Variable.valueIn]
  by_cases hnull : (x.valueIn rows).isNull = true
  · simp only [hnull, if_true]
    by_cases hrequired : x.required = true
    · simp only [hrequired, if_true, Bool.true_or]
      rfl
    · simp only [hrequired, Bool.false_or, if_false, Bool.false_eq_true]
      split_ifs <;> rfl
  · simp only [hnull, if_false, Bool.false_eq_true]
    cases x.type.coerce (x.valueIn rows) <;> rfl

section

variable {x y : Variable} {rows : Rows}

theorem Variable.get?_enter_of_ne (h : y.name ≠ x.name) (rows : Rows) (w : Option Value) :
    (x.enter rows w).get? y.name = rows.get? y.name := by
  cases w with
  | none => rfl
  | some w => exact Rows.get?_put_of_ne rows h w

/-- A variable does not touch the value of another one. -/
theorem Variable.valueIn_enter_of_ne (h : y.name ≠ x.name) (rows : Rows) (w : Option Value) :
    y.valueIn (x.enter rows w) = y.valueIn rows := by
  rw [Variable.valueIn, Variable.get?_enter_of_ne h rows w]
  rfl

theorem Variable.valueIn_enter (x : Variable) (rows : Rows) (w : Option Value) :
    x.valueIn (x.enter rows w) = w.getD (x.valueIn rows) := by
  cases w with
  | none => rfl
  | some w => rw [Variable.valueIn, Variable.enter, Rows.get?_put_self, Option.getD_some,
      Option.getD_some]

theorem Variable.keys_enter (x : Variable) (rows : Rows) (w : Option Value) :
    (x.enter rows w).keys
      = rows.keys ++ if w.isSome && (rows.get? x.name).isNone then [.text x.name] else [] := by
  cases w with
  | none => exact (List.append_nil _).symm
  | some w => exact Rows.keys_put rows x.name w

end

/-! ### All variables -/

/-- Whether no two variables have the same name. -/
def Distinct (declared : List Variable) : Prop := (declared.map (·.name)).Nodup

instance Distinct.decidable (declared : List Variable) : Decidable (Distinct declared) :=
  inferInstanceAs (Decidable (declared.map (·.name)).Nodup)

section

variable {x : Variable} {xs : List Variable} {rows : Rows}

theorem distinct_cons : Distinct (x :: xs) ↔ (∀ y ∈ xs, y.name ≠ x.name) ∧ Distinct xs := by
  rw [Distinct, List.map_cons, List.nodup_cons, List.mem_map]
  simp only [not_exists, not_and]
  rfl

theorem bindAll_cons (x : Variable) (xs : List Variable) (rows : Rows) :
    bindAll (x :: xs) rows
      = ((bindAll xs (x.enter rows (x.bound? (x.valueIn rows)))).1,
        (x.problem? (x.valueIn rows)).toList
          ++ (bindAll xs (x.enter rows (x.bound? (x.valueIn rows)))).2) := by
  rw [bindAll, Variable.bind_eq]

/-- The problems of some variables are those of each of them. -/
theorem bindAll_snd (h : Distinct xs) (rows : Rows) :
    (bindAll xs rows).2 = xs.filterMap fun x => x.problem? (x.valueIn rows) := by
  induction xs generalizing rows with
  | nil => rfl
  | cons x xs ih =>
    obtain ⟨hothers, hrest⟩ := distinct_cons.mp h
    have hsame : xs.filterMap (fun y =>
          y.problem? (y.valueIn (x.enter rows (x.bound? (x.valueIn rows)))))
        = xs.filterMap fun y => y.problem? (y.valueIn rows) :=
      List.filterMap_congr fun y hy => by rw [Variable.valueIn_enter_of_ne (hothers y hy)]
    rw [bindAll_cons, ih hrest, hsame, List.filterMap_cons]
    cases x.problem? (x.valueIn rows) <;> rfl

/-- What is under no name of a variable stays where it is. -/
theorem getElem?_bindAll {i : Nat} {row : Value × Value} (h : rows[i]? = some row)
    (hrow : ∀ x ∈ xs, row.1 ≠ .text x.name) : (bindAll xs rows).1[i]? = some row := by
  induction xs generalizing rows with
  | nil => exact h
  | cons x xs ih =>
    obtain ⟨hx, hxs⟩ := List.forall_mem_cons.mp hrow
    rw [bindAll_cons]
    refine ih ?_ hxs
    cases x.bound? (x.valueIn rows) with
    | none => exact h
    | some w => exact Rows.getElem?_put_of_ne h hx w

/-- A name that no variable has keeps its value. -/
theorem valueIn_bindAll_of_ne {y : Variable} (h : ∀ x ∈ xs, y.name ≠ x.name) (rows : Rows) :
    y.valueIn (bindAll xs rows).1 = y.valueIn rows := by
  induction xs generalizing rows with
  | nil => rfl
  | cons x xs ih =>
    obtain ⟨hx, hxs⟩ := List.forall_mem_cons.mp h
    rw [bindAll_cons, ih hxs, Variable.valueIn_enter_of_ne hx]

/-- A variable has the value that it is bound to, or keeps its own. -/
theorem valueIn_bindAll (h : Distinct xs) {x : Variable} (hx : x ∈ xs) (rows : Rows) :
    x.valueIn (bindAll xs rows).1 = (x.bound? (x.valueIn rows)).getD (x.valueIn rows) := by
  induction xs generalizing rows with
  | nil => cases hx
  | cons y xs ih =>
    obtain ⟨hothers, hrest⟩ := distinct_cons.mp h
    rw [bindAll_cons]
    rcases List.mem_cons.mp hx with rfl | hx
    · have hne : ∀ z ∈ xs, x.name ≠ z.name := fun z hz => (hothers z hz).symm
      rw [valueIn_bindAll_of_ne hne, Variable.valueIn_enter]
    · rw [ih hrest hx, Variable.valueIn_enter_of_ne (hothers x hx)]

/-- The names that binding adds to a map. -/
def namesAdded (xs : List Variable) (rows : Rows) : List Value :=
  (xs.filter fun x => (x.bound? .null).isSome && (rows.get? x.name).isNone).map (.text ·.name)

/-- The keys stay in order; behind them come the variables that had no key and are bound all the
same, which their defaults are for. -/
theorem keys_bindAll (h : Distinct xs) (rows : Rows) :
    (bindAll xs rows).1.keys = rows.keys ++ namesAdded xs rows := by
  induction xs generalizing rows with
  | nil => exact (List.append_nil _).symm
  | cons x xs ih =>
    obtain ⟨hothers, hrest⟩ := distinct_cons.mp h
    have hsame : namesAdded xs (x.enter rows (x.bound? (x.valueIn rows))) = namesAdded xs rows := by
      refine congrArg (List.map _) (List.filter_congr fun y hy => ?_)
      rw [Variable.get?_enter_of_ne (hothers y hy)]
    rw [bindAll_cons, ih hrest, hsame, Variable.keys_enter, List.append_assoc]
    congr 1
    rw [namesAdded, namesAdded, List.filter_cons]
    -- Only a variable without a key can add one, and what it is bound to is then its default.
    cases hkey : rows.get? x.name with
    | some v => simp
    | none =>
      have hvalue : x.valueIn rows = .null := by rw [Variable.valueIn, hkey]; rfl
      rw [hvalue]
      split_ifs <;> rfl

end

/-! ### The whole input -/

theorem bindInputs_eq {raw : Value} {given : Rows} (h : mappingOf raw = .ok given)
    (declared : List Variable) :
    bindInputs declared raw
      = if (bindAll declared given).2.isEmpty then .ok (bindAll declared given).1
        else .error (.invalid "Invalid input" (bindAll declared given).2) := by
  rw [bindInputs, h]
  rfl

theorem bindInputs_eq_ok_iff {declared : List Variable} {raw : Value} {bound : Rows} :
    bindInputs declared raw = .ok bound ↔ ∃ given, mappingOf raw = .ok given
      ∧ (bindAll declared given).2 = [] ∧ (bindAll declared given).1 = bound := by
  constructor
  · intro h
    obtain ⟨given, hgiven, -⟩ := Outcome.bind_eq_ok_iff.mp h
    have hgiven := Outcome.mapError_eq_ok_iff.mp hgiven
    rw [bindInputs_eq hgiven] at h
    split_ifs at h with hempty
    exact ⟨given, hgiven, List.isEmpty_iff.mp hempty, Except.ok.inj h⟩
  · rintro ⟨given, hgiven, hnone, rfl⟩
    rw [bindInputs_eq hgiven, hnone]
    rfl

theorem bindInputs_eq_error_iff {declared : List Variable} {raw : Value} {given : Rows}
    (hgiven : mappingOf raw = .ok given) {e : Failure} :
    bindInputs declared raw = .error e ↔ (bindAll declared given).2 ≠ []
      ∧ e = .invalid "Invalid input" (bindAll declared given).2 := by
  rw [bindInputs_eq hgiven]
  split_ifs with hempty
  · exact iff_of_false (by rintro ⟨⟩) fun h => h.1 (List.isEmpty_iff.mp hempty)
  · rw [Except.error.injEq]
    constructor
    · rintro rfl
      exact ⟨fun hnone => hempty (List.isEmpty_iff.mpr hnone), rfl⟩
    · exact fun h => h.2.symm

end Workflow
