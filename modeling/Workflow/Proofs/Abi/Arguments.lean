import Workflow.Abi.Arguments
import Workflow.Proofs.Abi.Descriptions
import Workflow.Proofs.Expression.Walks
import Workflow.Proofs.Word

/-!
# What can be wrong with the arguments of a function

Arguments are brought to the types of the parameters by recursion over both.  Of what goes wrong on
the way, a fault is left in two cases only (`Parameter.CoercionFault`): somewhere inside the
argument lies a value that is unfit as such, or the parameter has a type with a closing bracket that
no opening one precedes (`Parameter.HasStray`), which the description of the function let through.
`calldata_forms` collects what can be wrong with the description and with the arguments.
-/

namespace Workflow

/-! ### Inside a value -/

/-- What lies anywhere inside a value. -/
def Value.Contains (v w : Value) : Prop := ∃ way, v.Holds way w

namespace Value.Contains

theorem refl (v : Value) : v.Contains v := ⟨[], .here v⟩

theorem item {v w u : Value} {vs : List Value} (hitems : v.items? = some vs) (hw : w ∈ vs)
    (h : w.Contains u) : v.Contains u := by
  obtain ⟨way, h⟩ := h
  obtain ⟨n, hn⟩ := List.mem_iff_getElem?.mp hw
  refine ⟨.item n :: way, .there ?_ h⟩
  cases v with
  | list vs => exact .list (Option.some.inj hitems ▸ hn)
  | tuple vs => exact .tuple (Option.some.inj hitems ▸ hn)
  | _ => cases hitems

theorem named {v w u : Value} {fields : List (String × Value)} {name : String}
    (hnamed : v.named? = some fields) (hw : Fields.get? fields name = some w)
    (h : w.Contains u) : v.Contains u := by
  obtain ⟨way, h⟩ := h
  refine ⟨.field name :: way, .there ?_ h⟩
  cases v with
  | record fs => exact .record (Option.some.inj hnamed ▸ hw)
  | table rows =>
    refine .table ?_
    rw [← get?_named_table, hnamed]
    exact hw
  | _ => cases hnamed

theorem trans {v w u : Value} (h : v.Contains w) (hu : w.Contains u) : v.Contains u := by
  obtain ⟨way, h⟩ := h
  induction h with
  | here v => exact hu
  | there hhas _ ih =>
    obtain ⟨way', h'⟩ := ih hu
    exact ⟨_, .there hhas h'⟩

end Value.Contains

namespace Abi

open Outcome

/-! ### Brackets -/

/-- Whether a closing bracket without an opening one is met under the array suffixes. -/
def Layers.IsStray : Layers → Prop
  | .base _ => False
  | .array _ item => item.IsStray
  | .stray _ => True

theorem of_isStray_layersOfReverse {steps : Nat} {cs : List Char}
    (h : (layersOfReverse steps cs).IsStray) :
    ∃ back front, cs = back ++ ']' :: front ∧ '[' ∉ front := by
  induction steps generalizing cs with
  | zero => exact h.elim
  | succ steps ih =>
    rw [layersOfReverse] at h
    split_ifs at h with hhead
    · cases hrest : cs.dropWhile (· != '[') with
      | cons c item =>
        rw [hrest] at h
        obtain ⟨back, front, rfl, hfront⟩ := ih h
        refine ⟨cs.takeWhile (· != '[') ++ c :: back, front, ?_, hfront⟩
        rw [List.append_assoc, List.cons_append, ← hrest, List.takeWhile_append_dropWhile]
      | nil =>
        have hnone : ∀ c ∈ cs, (c != '[') = true := List.dropWhile_eq_nil_iff.mp hrest
        cases cs with
        | nil => cases hhead
        | cons c front =>
          obtain rfl : c = ']' := by simpa using hhead
          refine ⟨[], front, rfl, fun hmem => ?_⟩
          have hne := hnone '[' (List.mem_cons_of_mem _ hmem)
          exact absurd hne (by decide)
    · exact h.elim

/-- A type has a closing bracket with no opening one in front of it, or a component has. -/
inductive Parameter.HasStray : Parameter → Prop where
  | type {p : Parameter} {front back : List Char} (h : p.type.toList = front ++ ']' :: back)
    (hfront : '[' ∉ front) : HasStray p
  | component {p q : Parameter} (hq : q ∈ p.components) (h : q.HasStray) : HasStray p

theorem Parameter.hasStray_of_layers {p : Parameter} (h : (Layers.ofType p.type).IsStray) :
    p.HasStray := by
  obtain ⟨back, front, hsplit, hfront⟩ := of_isStray_layersOfReverse h
  have htype : p.type.toList = front.reverse ++ ']' :: back.reverse := by
    rw [← List.reverse_reverse p.type.toList, hsplit]
    simp
  exact .type htype fun hmem => hfront (List.mem_reverse.mp hmem)

/-! ### Single values -/

theorem coerceTruth_forms (label : String) (v : Value) :
    Forms v.Unfit (coerceTruth label v) := by
  unfold coerceTruth
  dsimp only
  split
  · exact .ok _
  · exact .showing v _

theorem coerceAddress_forms (label : String) (v : Value) :
    Forms v.Unfit (coerceAddress label v) := by
  cases v with
  | text s =>
    rw [coerceAddress]
    split_ifs
    · exact .ok _
    · exact .coding _
  | _ => exact .showing _ _

theorem coerceElementary_forms (type label : String) (v : Value) :
    Forms v.Unfit (coerceElementary type label v) := by
  rw [coerceElementary]
  split_ifs
  · exact (integer_forms _ v).map _
  · exact coerceTruth_forms label v
  · exact coerceAddress_forms label v
  · exact (hexBytes_forms _ v).map _
  · exact .ok v

/-! ### Arrays and tuples -/

theorem coerceItems_forms {P : Value → Fault → Prop}
    {item : String → Value → Except Failure Value} (hitem : ∀ label v, Forms (P v) (item label v))
    (label : String) (index : Nat) (vs : List Value) :
    Forms (fun f => ∃ v ∈ vs, P v f) (coerceItems item label index vs) := by
  induction vs generalizing index with
  | nil => exact .ok _
  | cons v vs ih =>
    rw [coerceItems]
    have hfirst : Forms (fun f => ∃ w ∈ v :: vs, P w f)
        (item (label ++ "[" ++ toString index ++ "]") v) :=
      .of_mem List.mem_cons_self (hitem _ v)
    have hrest := (ih (index + 1)).of_tail (a := v)
    exact hfirst.bind fun w _ => hrest.bind fun ws _ => .ok _

/-- What is at fault with the items of an array, or with the brackets of its type, is at fault with
the array. -/
theorem Layers.coerce_forms {P : Value → Fault → Prop}
    {base : String → String → Value → Except Failure Value}
    (hitems : ∀ {v w vs f}, v.items? = some vs → w ∈ vs → P w f → P v f)
    (hbase : ∀ type label v, Forms (P v) (base type label v)) {layers : Layers}
    (hstray : layers.IsStray → ∀ v, P v .noBracket) (label : String) (v : Value) :
    Forms (P v) (layers.coerce base label v) := by
  induction layers generalizing label v with
  | base type => exact hbase type label v
  | array type item ih =>
    rw [Layers.coerce]
    split
    · next vs hv =>
      have hall := coerceItems_forms (P := P) (ih hstray) label 0 vs
      refine (hall.imp ?_).map _
      rintro f ⟨w, hw, h⟩
      exact hitems hv hw h
    · exact .coding _
  | stray type =>
    rw [Layers.coerce]
    split
    · exact .error (.fault (hstray trivial v))
    · exact .coding _

theorem componentValues_failsOnly (components : List Parameter) (label : String) (v : Value) :
    FailsOnly Failure.IsRefusal (componentValues components label v) := by
  rw [componentValues]
  split
  · split
    · exact .error ⟨_, rfl, rfl⟩
    · exact .ok _
  · split
    · split_ifs
      · exact .ok _
      · exact .error (Failure.isRefusal_coding _)
    · exact .error (Failure.isRefusal_coding _)

theorem get?_of_fieldOf {fields : List (String × Value)} {name : String}
    (h : (fieldOf fields name).isNull = false) :
    Fields.get? fields name = some (fieldOf fields name) := by
  rw [fieldOf] at h ⊢
  cases hget : Fields.get? fields name with
  | none =>
    rw [hget] at h
    cases h
  | some v => rfl

/-- The values of components lie inside the tuple. -/
theorem contains_of_componentValues {components : List Parameter} {label : String} {v : Value}
    {vs : List Value} (h : componentValues components label v = .ok vs) {w : Value}
    (hw : w ∈ vs) : v.Contains w := by
  rw [componentValues] at h
  split at h
  · next fields hnamed =>
    split at h
    · cases h
    · next hnone =>
      rw [← Except.ok.inj h] at hw
      obtain ⟨c, hc, rfl⟩ := List.mem_map.mp hw
      have hnull := List.find?_eq_none.mp hnone c hc
      exact .named hnamed (get?_of_fieldOf (Bool.eq_false_iff.mpr hnull)) (.refl _)
  · split at h
    · next items hitems =>
      split_ifs at h
      rw [← Except.ok.inj h] at hw
      exact .item hitems hw (.refl w)
    · cases h

/-- How bringing an argument to the type of a parameter ends in a fault. -/
inductive Parameter.CoercionFault (p : Parameter) (v : Value) : Fault → Prop where
  /-- A value inside the argument is unfit. -/
  | value {w : Value} {f : Fault} (hw : v.Contains w) (hf : w.Unfit f) : CoercionFault p v f
  /-- A type of the parameter has a stray bracket. -/
  | bracket (h : p.HasStray) : CoercionFault p v .noBracket

theorem Parameter.CoercionFault.inside {p q : Parameter} {v w : Value} {f : Fault}
    (hvw : ∀ u, w.Contains u → v.Contains u) (hpq : q.HasStray → p.HasStray)
    (h : q.CoercionFault w f) : p.CoercionFault v f := by
  cases h with
  | value hu hf => exact .value (hvw _ hu) hf
  | bracket h => exact .bracket (hpq h)

mutual

theorem Parameter.coerce_forms (p : Parameter) (label : String) (v : Value) :
    Forms (p.CoercionFault v) (p.coerce label v) := by
  match p with
  | ⟨name, type, components⟩ =>
    rw [Parameter.coerce]
    refine Layers.coerce_forms (P := fun v => Parameter.CoercionFault ⟨name, type, components⟩ v)
      ?_ ?_ ?_ label v
    · intro v w vs f hitems hw h
      exact h.inside (fun u => .item hitems hw) id
    · intro base l w
      split_ifs
      · -- The components of a tuple are checked before any of them is brought to its type.
        cases hvalues : componentValues components l w with
        | error e => exact .error (.rule (componentValues_failsOnly components l w e hvalues))
        | ok vs =>
          have hall := coerceComponents_forms components l 0 vs
          refine (hall.imp ?_).map _
          rintro f ⟨c, hc, u, hu, h⟩
          have hinside := contains_of_componentValues hvalues hu
          exact h.inside (fun _ => hinside.trans) (.component hc)
      · exact (coerceElementary_forms base l w).imp fun f hf => .value (.refl w) hf
    · exact fun hstray v => .bracket (Parameter.hasStray_of_layers hstray)

theorem coerceComponents_forms (components : List Parameter) (label : String) (index : Nat)
    (vs : List Value) :
    Forms (fun f => ∃ c ∈ components, ∃ v ∈ vs, c.CoercionFault v f)
      (coerceComponents components label index vs) := by
  match components, vs with
  | [], _ => exact .ok _
  | _ :: _, [] => exact .ok _
  | c :: cs, v :: vs =>
    rw [coerceComponents]
    have hfirst : Forms (fun f => ∃ c' ∈ c :: cs, ∃ w ∈ v :: vs, c'.CoercionFault w f)
        (c.coerce (componentLabel label c.name index) v) :=
      .of_mem List.mem_cons_self (.of_mem List.mem_cons_self (c.coerce_forms _ v))
    refine hfirst.bind fun w _ => .bind ?_ fun ws _ => .ok _
    refine (coerceComponents_forms cs label (index + 1) vs).imp ?_
    rintro f ⟨c', hc, u, hu, h⟩
    exact ⟨c', List.mem_cons_of_mem c hc, u, List.mem_cons_of_mem v hu, h⟩

end

/-! ### Calls -/

theorem orderFrom_forms (name : String) (args : List (String × Value)) (index : Nat)
    (ps : List Parameter) :
    Forms (fun f => ∃ p ∈ ps, p.CoercionFault (.record args) f) (orderFrom name args index ps) := by
  induction ps generalizing index with
  | nil => exact .ok _
  | cons p ps ih =>
    rw [orderFrom]
    split_ifs with hnull
    · exact .error (.rule ⟨_, rfl, rfl⟩)
    · have hget := get?_of_fieldOf (Bool.eq_false_iff.mpr hnull)
      have hargument : Forms (p.CoercionFault (.record args))
          (p.coerce (p.key index) (fieldOf args (p.key index))) :=
        (p.coerce_forms _ _).imp fun f h => h.inside (fun u => .named rfl hget) id
      have hfirst : Forms (fun f => ∃ q ∈ p :: ps, q.CoercionFault (.record args) f) _ :=
        .of_mem List.mem_cons_self hargument
      have hrest := (ih (index + 1)).of_tail (a := p)
      exact hfirst.bind fun w _ => hrest.bind fun ws _ => .ok _

theorem Function.encodeCall_forms (f : Function) (args : List (String × Value)) :
    Forms (fun fault => ∃ p ∈ f.inputs, p.CoercionFault (.record args) fault)
      (f.encodeCall (.record args)) := by
  rw [Function.encodeCall]
  refine (orderFrom_forms f.name args 0 f.inputs).bind fun vs _ => ?_
  split
  · exact .ok _
  · exact Forms.coding _

theorem Function.checkSelector_failsOnly (f : Function) (selector : String) :
    FailsOnly Failure.IsRefusal (f.checkSelector (.text selector)) := by
  simp only [Function.checkSelector]
  refine .bind ?_ fun written _ => ?_
  · rw [hexText_text]
    split_ifs
    · exact .ok _
    · exact .error (Failure.isRefusal_coding _)
  · split_ifs
    · exact .ok _
    · exact .error (Failure.isRefusal_coding _)

/-- How forming call data from a description and arguments ends in a fault. -/
inductive CalldataFault (fragment : Value) (args : List (String × Value)) : Fault → Prop where
  /-- The description of the function is at fault. -/
  | description {f : Fault} (h : DescriptionFault fragment f) : CalldataFault fragment args f
  /-- An argument is at fault. -/
  | argument {function : Function} {p : Parameter} {f : Fault}
    (h : Function.ofFragment fragment = .ok function) (hp : p ∈ function.inputs)
    (hf : p.CoercionFault (.record args) f) : CalldataFault fragment args f

/-- Call data are formed, or refused by the rules, or the description or an argument is at fault. -/
theorem calldata_forms (fragment : Value) (args : List (String × Value)) (selector : String) :
    Forms (CalldataFault fragment args) (calldata fragment (.record args) (.text selector)) := by
  rw [calldata]
  have hdescribed : Forms (CalldataFault fragment args) (Function.ofFragment fragment) :=
    (ofFragment_forms fragment).imp fun f h => .description h
  refine hdescribed.bind fun function hfunction => ?_
  refine .bind (.of_rules (function.checkSelector_failsOnly selector)) fun _ _ => ?_
  have hencoded : Forms (CalldataFault fragment args) (function.encodeCall (.record args)) := by
    refine (function.encodeCall_forms args).imp ?_
    rintro f ⟨p, hp, h⟩
    exact .argument hfunction hp h
  exact hencoded.bind fun bs _ => .ok _

end Abi

end Workflow
