import Workflow.Proofs.Input.Reports

/-!
# Inputs that have been bound

A variable takes its value from the input or, where that has none, from its default.  A value from
the input has been brought to the declared type, so it is of this type unless a line break has
slipped through (`has_coerced_iff`).  A default is only looked at where a number or a truth value is
to be read from a text; of any other default it depends on the declaration alone whether it is of
the type (`has_default_iff`).

`bound_input` says this of every input that is bound, and `bound_not_of_type` shows that both
exceptions occur.
-/

namespace Workflow

/-- Bringing a value to a type does not take it away. -/
theorem isNull_of_coerce {type : VariableType} {v w : Value} (h : type.coerce v = .ok w) :
    w.isNull = false := by
  by_cases hbreak : type.LineBreaks v
  · obtain ⟨rfl | rfl, t, rfl⟩ := hbreak
    · rw [VariableType.coerce] at h
      split_ifs at h
      rw [← Except.ok.inj h]
      rfl
    · rw [VariableType.coerce] at h
      split_ifs at h
      rw [← Except.ok.inj h]
      rfl
  · have hhas := (has_coerced_iff h).mpr hbreak
    cases type with
    | number =>
      rcases hhas with ⟨n, rfl⟩ | ⟨x, rfl⟩
      · rfl
      · rfl
    | string | boolean =>
      obtain ⟨_, rfl⟩ := hhas
      rfl
    | address | uint256 =>
      obtain ⟨_, rfl, -⟩ := hhas
      rfl

/-- What is said of an input that has been bound. -/
structure BoundFrom (declared : List Variable) (given bound : Rows) : Prop where
  /-- Every required variable has a value. -/
  required : ∀ x ∈ declared, x.required = true → (x.valueIn bound).isNull = false
  /-- Where a value was given, there is one of the type, unless a line break stands behind it. -/
  supplied : ∀ x ∈ declared, (x.valueIn given).isNull = false →
    (x.valueIn bound).isNull = false
      ∧ (x.type.Has (x.valueIn bound) ↔ ¬ x.type.LineBreaks (x.valueIn given))
  /-- Where none was given, a value is of the type exactly if it is declared as one or read from a
  text. -/
  defaulted : ∀ x ∈ declared, (x.valueIn given).isNull = true → (x.valueIn bound).isNull = false →
    (x.type.Has (x.valueIn bound) ↔ x.type.Has x.default
      ∨ (x.type = .number ∨ x.type = .boolean) ∧ ∃ s, x.default = .text s)
  /-- What is under no name of a variable stays where it is. -/
  others : ∀ (i : Nat) row, given[i]? = some row → (∀ x ∈ declared, row.1 ≠ .text x.name) →
    bound[i]? = some row
  /-- The keys stay in order, and behind them come the variables that are missing and have a
  default. -/
  keys : bound.keys = given.keys
    ++ (declared.filter fun x => (given.get? x.name).isNone && !x.required
        && !x.defaultValue.isNull).map (.text ·.name)

/-- A variable without a value is bound to its default or keeps having none. -/
theorem Variable.eq_default_of_bound {x : Variable} {v : Value} (hv : v.isNull = true)
    (h : ((x.bound? v).getD v).isNull = false) :
    (x.bound? v).getD v = x.defaultValue ∧ x.defaultValue ≠ .null := by
  rw [Variable.bound?, if_pos hv] at h ⊢
  split_ifs at h ⊢ with hno
  · cases hv.symm.trans h
  · refine ⟨rfl, fun heq => hno ?_⟩
    rw [heq]
    exact Bool.or_true _

/-- An input that is bound has a value for every required variable.  The values that were given are
of the declared types, except for addresses and numbers with a line break behind them; a default is
of the declared type exactly if it is declared so or read from a text.  All other values stay, and
so do the keys, behind which the defaults of missing variables come in the order of the
declarations. -/
theorem bound_input {declared : List Variable} (hnames : Distinct declared) {raw : Value}
    {bound : Rows} (h : bindInputs declared raw = .ok bound) :
    ∃ given, mappingOf raw = .ok given ∧ BoundFrom declared given bound := by
  obtain ⟨given, hgiven, hnone, rfl⟩ := bindInputs_eq_ok_iff.mp h
  have hvalue : ∀ x ∈ declared, x.valueIn (bindAll declared given).1
      = (x.bound? (x.valueIn given)).getD (x.valueIn given) :=
    fun x hx => valueIn_bindAll hnames hx given
  -- No variable has a problem, so every value that was given has been brought to its type.
  have hclean : ∀ x ∈ declared, ¬ x.AtFault given := by
    intro x hx hfault
    obtain ⟨entry, hentry⟩ := (x.exists_problem?_iff given).mpr hfault
    rw [bindAll_snd hnames, List.filterMap_eq_nil_iff] at hnone
    rw [hnone x hx] at hentry
    cases hentry
  have hcoerced : ∀ x ∈ declared, (x.valueIn given).isNull = false →
      x.type.coerce (x.valueIn given) = .ok (x.valueIn (bindAll declared given).1) := by
    intro x hx hgivenValue
    have haccepts : x.type.Accepts (x.valueIn given) := by
      by_contra hrefused
      exact hclean x hx (.inr ⟨hgivenValue, hrefused⟩)
    obtain ⟨w, hw⟩ := (exists_coerce_iff _ _).mpr haccepts
    rw [hvalue x hx, Variable.bound?, hgivenValue, hw]
    rfl
  refine ⟨given, hgiven, ?_, ?_, ?_, fun i row => getElem?_bindAll, ?_⟩
  · intro x hx hrequired
    cases hgivenValue : (x.valueIn given).isNull with
    | true => exact absurd (.inl ⟨hrequired, hgivenValue⟩) (hclean x hx)
    | false => exact isNull_of_coerce (hcoerced x hx hgivenValue)
  · intro x hx hgivenValue
    have hw := hcoerced x hx hgivenValue
    exact ⟨isNull_of_coerce hw, has_coerced_iff hw⟩
  · intro x hx hgivenValue hboundValue
    rw [hvalue x hx] at hboundValue ⊢
    obtain ⟨heq, hdefault⟩ := Variable.eq_default_of_bound hgivenValue hboundValue
    rw [heq]
    exact has_default_iff hdefault
  · rw [keys_bindAll hnames, namesAdded]
    congr 2
    refine List.filter_congr fun x _ => ?_
    rw [Variable.isSome_bound?_null, Bool.and_comm, Bool.and_assoc]

/-- Whether a payment is urgent, which it is if nothing is said. -/
def urgentInput : Variable := { name := "urgent", type := .boolean, default := .text "TRUE" }

/-- A payment with a remark that is not declared. -/
def paymentRows : Rows :=
  [(.text "remark", .int 3), (.text "to", .text "0x00000000000000000000000000000000000000aa")]

theorem bound_input_payment :
    ∃ bound, bindInputs [urgentInput, receiverInput] (.table paymentRows) = .ok bound
      ∧ VariableType.address.Has (receiverInput.valueIn bound)
      ∧ VariableType.boolean.Has (urgentInput.valueIn bound)
      ∧ bound[0]? = some (.text "remark", .int 3)
      ∧ bound.keys = [.text "remark", .text "to", .text "urgent"] := by
  have hbind : bindInputs [urgentInput, receiverInput] (.table paymentRows)
      = .ok (paymentRows ++ [(.text "urgent", .bool true)]) := by cbv
  obtain ⟨given, hgiven, hbound⟩ := bound_input (by decide) hbind
  obtain rfl : paymentRows = given := Except.ok.inj hgiven
  have hreceiver : receiverInput ∈ [urgentInput, receiverInput] :=
    List.mem_cons_of_mem _ List.mem_cons_self
  have hline : ¬ receiverInput.type.LineBreaks (receiverInput.valueIn paymentRows) := by
    rintro ⟨-, t, ht⟩
    have haddress : IsAddressText "0x00000000000000000000000000000000000000aa" := by decide
    rw [Value.text.inj ht] at haddress
    exact not_isAddressText_of_newline t haddress
  have haddress := (hbound.supplied receiverInput hreceiver rfl).2.mpr hline
  refine ⟨_, hbind, haddress, ?_, ?_, hbound.keys⟩
  · exact (hbound.defaulted urgentInput List.mem_cons_self rfl rfl).mpr (.inr ⟨.inr rfl, _, rfl⟩)
  · refine hbound.others 0 _ rfl fun x hx => ?_
    rcases List.mem_cons.mp hx with rfl | hx
    · exact fun heq => absurd (Value.text.inj heq) (by decide)
    · rw [List.mem_singleton.mp hx]
      exact fun heq => absurd (Value.text.inj heq) (by decide)

/-- An address with a line break behind it. -/
def brokenReceiver : Rows :=
  [(.text "to", .text "0x00000000000000000000000000000000000000aa\n")]

/-- A number of payments, declared with a number where its type has texts. -/
def paymentsInput : Variable := { name := "payments", type := .uint256, default := .int 5 }

/-- A line break and a default of another kind both get through, so not every bound value is of the
declared type. -/
theorem bound_not_of_type :
    (bindInputs [receiverInput] (.table brokenReceiver) = .ok brokenReceiver
      ∧ ¬ ∀ x ∈ [receiverInput], (x.valueIn brokenReceiver).isNull = false →
        x.type.Has (x.valueIn brokenReceiver))
    ∧ (bindInputs [paymentsInput] .null = .ok [(.text "payments", .int 5)]
      ∧ ¬ ∀ x ∈ [paymentsInput], (x.valueIn [(.text "payments", .int 5)]).isNull = false →
        x.type.Has (x.valueIn [(.text "payments", .int 5)])) := by
  refine ⟨⟨by cbv, fun h => ?_⟩, ⟨by cbv, fun h => ?_⟩⟩
  · obtain ⟨_, htext, haddress⟩ := h receiverInput List.mem_cons_self rfl
    rw [← Value.text.inj htext] at haddress
    revert haddress
    decide
  · obtain ⟨_, htext, -⟩ := h paymentsInput List.mem_cons_self rfl
    cases htext

end Workflow
