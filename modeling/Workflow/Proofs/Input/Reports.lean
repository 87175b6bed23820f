import Workflow.Proofs.Client
import Workflow.Proofs.Input.Binding
import Workflow.Proofs.Input.Types

/-!
# Reports of inputs that cannot be bound

A variable is at fault if it is required and has no value, or if it has one that its type does not
accept.  This is a matter of the variable and of its own value (`Variable.exists_problem?_iff`),
and so is the entry that the report has for it: binding this variable alone gives a report with the
same entry (`bindInputs_singleton`).  With distinct names the report of an input is put together
from these entries, one for each variable at fault and in order (`binding_reports`).
-/

namespace Workflow

/-! ### Variables at fault -/

/-- Whether a required variable has no value. -/
def Variable.IsMissing (x : Variable) (given : Rows) : Prop :=
  x.required = true ∧ (x.valueIn given).isNull = true

/-- Whether a variable has a value that its type does not accept. -/
def Variable.IsRefused (x : Variable) (given : Rows) : Prop :=
  (x.valueIn given).isNull = false ∧ ¬ x.type.Accepts (x.valueIn given)

/-- Whether a variable is to be reported. -/
def Variable.AtFault (x : Variable) (given : Rows) : Prop := x.IsMissing given ∨ x.IsRefused given

instance Variable.decidableIsMissing (x : Variable) (given : Rows) :
    Decidable (x.IsMissing given) := inferInstanceAs (Decidable (_ ∧ _))

instance Variable.decidableIsRefused (x : Variable) (given : Rows) :
    Decidable (x.IsRefused given) := inferInstanceAs (Decidable (_ ∧ _))

instance Variable.decidableAtFault (x : Variable) (given : Rows) :
    Decidable (x.AtFault given) := inferInstanceAs (Decidable (_ ∨ _))

/-- What a report says of a variable, under its name. -/
structure Variable.Reports (x : Variable) (given : Rows) (entry : String) : Prop where
  /-- A required value is missing. -/
  missing : x.IsMissing given → entry = "Missing required input: " ++ x.name
  /-- The value is refused, for some reason. -/
  refused : x.IsRefused given → ∃ reason, entry = "Invalid input '" ++ x.name ++ "': " ++ reason

theorem Variable.exists_problem?_iff (x : Variable) (given : Rows) :
    (∃ entry, x.problem? (x.valueIn given) = some entry) ↔ x.AtFault given := by
  rw [Variable.problem?, Variable.AtFault, Variable.IsMissing, Variable.IsRefused,
    ← exists_coerce_iff]
  by_cases hnull : (x.valueIn given).isNull = true
  · simp only [hnull, if_true]
    by_cases hrequired : x.required = true
    · rw [if_pos hrequired]
      exact iff_of_true ⟨_, rfl⟩ (.inl ⟨hrequired, trivial⟩)
    · rw [if_neg hrequired]
      refine iff_of_false (by rintro ⟨_, ⟨⟩⟩) ?_
      rintro (⟨h, -⟩ | ⟨⟨⟩, -⟩)
      exact hrequired h
  · rw [Bool.not_eq_true] at hnull
    simp only [hnull, if_false, Bool.false_eq_true]
    cases x.type.coerce (x.valueIn given) with
    | ok w =>
      refine iff_of_false (by rintro ⟨_, ⟨⟩⟩) ?_
      rintro (⟨-, ⟨⟩⟩ | ⟨-, h⟩)
      exact h ⟨w, rfl⟩
    | error e => exact iff_of_true ⟨_, rfl⟩ (.inr ⟨by decide, by rintro ⟨_, ⟨⟩⟩⟩)

theorem Variable.reports_of_problem? {x : Variable} {given : Rows} {entry : String}
    (h : x.problem? (x.valueIn given) = some entry) : x.Reports given entry := by
  rw [Variable.problem?] at h
  split_ifs at h with hnull hrequired
  · refine ⟨fun _ => (Option.some.inj h).symm, fun hrefused => ?_⟩
    cases hnull.symm.trans hrefused.1
  · refine ⟨fun hmissing => absurd hmissing.2 hnull, fun _ => ?_⟩
    split at h
    · cases h
    · exact ⟨_, (Option.some.inj h).symm⟩

/-- A variable that is bound alone is reported alone. -/
theorem bindInputs_singleton {x : Variable} {raw : Value} {given : Rows} {entry : String}
    (hgiven : mappingOf raw = .ok given) (h : x.problem? (x.valueIn given) = some entry) :
    bindInputs [x] raw = .error (.invalid "Invalid input" [entry]) := by
  have hone : (bindAll [x] given).2 = [entry] := by
    rw [bindAll_cons, h]
    rfl
  rw [bindInputs_eq_error_iff hgiven, hone]
  exact ⟨List.cons_ne_nil _ _, rfl⟩

/-- What some items are taken to, one by one, where the others are left out. -/
theorem forall₂_filterMap {α β : Type} {f : α → Option β} {p : α → Bool} {R : α → β → Prop}
    {xs : List α} (hp : ∀ x ∈ xs, (f x).isSome = p x) (hR : ∀ x ∈ xs, ∀ y, f x = some y → R x y) :
    List.Forall₂ R (xs.filter p) (xs.filterMap f) := by
  induction xs with
  | nil => exact .nil
  | cons x xs ih =>
    obtain ⟨hx, hxs⟩ := List.forall_mem_cons.mp hp
    obtain ⟨hxR, hxsR⟩ := List.forall_mem_cons.mp hR
    have hrest := ih hxs hxsR
    rw [List.filter_cons, List.filterMap_cons, ← hx]
    cases hf : f x with
    | none => exact hrest
    | some y => exact .cons (hxR y hf) hrest

/-- Binding an input fails exactly if some required variable has no value or some variable has a
value that its type does not accept, and only with a report of what is invalid.  The report has one
entry for each such variable, in the order of the declarations; it names the variable, and it is
the entry of this variable whatever the other ones are. -/
theorem binding_reports {declared : List Variable} (hnames : Distinct declared) {raw : Value}
    (hraw : raw.IsInput) :
    ∃ given, mappingOf raw = .ok given
      ∧ ((∃ errors, bindInputs declared raw = .error (.invalid "Invalid input" errors))
        ↔ ∃ x ∈ declared, x.AtFault given)
      ∧ ∀ e, bindInputs declared raw = .error e → ∃ errors, e = .invalid "Invalid input" errors
        ∧ List.Forall₂ (fun x entry => x.Reports given entry
            ∧ bindInputs [x] raw = .error (.invalid "Invalid input" [entry]))
          (declared.filter fun x => x.AtFault given) errors := by
  obtain ⟨given, hgiven⟩ := exists_mappingOf hraw
  have hproblems := bindAll_snd hnames given
  refine ⟨given, hgiven, ?_, fun e he => ?_⟩
  · have hsome : (bindAll declared given).2 ≠ [] ↔ ∃ x ∈ declared, x.AtFault given := by
      rw [hproblems, Ne, List.filterMap_eq_nil_iff]
      simp only [not_forall, exists_prop, ← Variable.exists_problem?_iff,
        ← Option.isSome_iff_exists, Option.isSome_iff_ne_none, Ne]
    rw [← hsome]
    constructor
    · rintro ⟨errors, herrors⟩
      exact ((bindInputs_eq_error_iff hgiven).mp herrors).1
    · exact fun h => ⟨_, (bindInputs_eq_error_iff hgiven).mpr ⟨h, rfl⟩⟩
  · obtain ⟨-, rfl⟩ := (bindInputs_eq_error_iff hgiven).mp he
    refine ⟨_, rfl, ?_⟩
    rw [hproblems]
    refine forall₂_filterMap (fun x _ => ?_) fun x _ entry hentry =>
      ⟨Variable.reports_of_problem? hentry, bindInputs_singleton hgiven hentry⟩
    rw [Bool.eq_iff_iff, decide_eq_true_iff, ← Variable.exists_problem?_iff,
      Option.isSome_iff_exists]

/-- A receiver that must be given. -/
def receiverInput : Variable := { name := "to", type := .address, required := true }

/-- An amount that need not be given. -/
def amountInput : Variable := { name := "amount", type := .uint256 }

/-- A note, which may be any text. -/
def noteInput : Variable := { name := "note" }

/-- Rows without a receiver and with an amount in words. -/
def wordyRows : Rows := [(.text "note", .text "rent"), (.text "amount", .text "ten")]

theorem binding_reports_wordyRows :
    ∃ first second, bindInputs [receiverInput, noteInput, amountInput] (.table wordyRows)
        = .error (.invalid "Invalid input" [first, second])
      ∧ first = "Missing required input: to"
      ∧ ∃ reason, second = "Invalid input 'amount': " ++ reason := by
  obtain ⟨given, hgiven, hfails, hreport⟩ := binding_reports
    (show Distinct [receiverInput, noteInput, amountInput] by decide)
    (show (Value.table wordyRows).IsInput from .inr (.inr ⟨_, rfl⟩))
  obtain rfl : wordyRows = given := Except.ok.inj hgiven
  have hmissing : receiverInput.IsMissing wordyRows := by decide
  have hnote : ¬ noteInput.AtFault wordyRows := by decide
  have hrefused : amountInput.IsRefused wordyRows := by decide
  have hfilter : ([receiverInput, noteInput, amountInput].filter fun x => x.AtFault wordyRows)
      = [receiverInput, amountInput] := by
    have hreceiver : receiverInput.AtFault wordyRows := .inl hmissing
    have hamount : amountInput.AtFault wordyRows := .inr hrefused
    simp [hreceiver, hnote, hamount]
  obtain ⟨errors, herrors⟩ := hfails.mpr ⟨receiverInput, List.mem_cons_self, .inl hmissing⟩
  obtain ⟨_, heq, hentries⟩ := hreport _ herrors
  rw [← (Failure.invalid.inj heq).2, hfilter] at hentries
  obtain ⟨first, _, hfirst, hrest, rfl⟩ := List.forall₂_cons_left_iff.mp hentries
  obtain ⟨second, _, hsecond, hnil, rfl⟩ := List.forall₂_cons_left_iff.mp hrest
  obtain rfl := List.forall₂_nil_left_iff.mp hnil
  exact ⟨first, second, herrors, hfirst.1.missing hmissing, hsecond.1.refused hrefused⟩

end Workflow
