import Workflow.Proofs.Input.Bound

/-!
# Defaults that are texts

Where a number or a truth value is asked for, a default may be a text, and a text is also what a
caller may supply.  The two are read by different functions: a default counts as true if the text is
the word `true`, and as a number if it is the numeral of a floating-point number, while a supplied
text may be one of four words for true and keeps all its digits.

So a text means the same in both places exactly under the conditions of `VariableType.ReadsAlike`
(`defaultValue_equals_iff`), and `textDefault_iff` says so of inputs that are bound: with the text
supplied instead of left to the default all other variables keep their values and the same problems
are reported, but the variable itself has an equal value only if the text reads alike.
-/

namespace Workflow

/-! ### Texts that are read twice -/

/-- Whether two values are equal, as themselves or as numbers. -/
def Value.Equals (v w : Value) : Prop := v = w ∨ isSameKey v w = true

/-- Whether a text has one meaning for a type.  The numeral of a number must be free of separators,
and its digits those of a double; a truth value must not be written as one of the words for true
that only a caller may use. -/
def VariableType.ReadsAlike (type : VariableType) (s : String) : Prop :=
  match type with
  | .number => (∀ c ∈ s.toList, ¬ Numeral.IsSeparator c)
    ∧ (IsDecimalText (trimmed s) → Decimal.IsDouble (Text.digitsValue (trimmed s).toList))
  | .boolean => Text.lower (trimmed s) ∉ ["1", "yes", "y"]
  | _ => True

theorem not_equals_null {w : Value} (h : w.isNull = false) : ¬ Value.null.Equals w := by
  rintro (rfl | hsame)
  · cases h
  · cases w with
    | null => cases h
    | _ => cases hsame

theorem equals_bool_iff {a b : Bool} : (Value.bool a).Equals (.bool b) ↔ a = b := by
  constructor
  · rintro (heq | hsame)
    · exact Value.bool.inj heq
    · revert hsame
      cases a <;> cases b <;> decide
  · rintro rfl
    exact .inl rfl

theorem equals_float_int_iff {x : Float} {n : Int} :
    (Value.float x).Equals (.int n) ↔ isSameKey (.float x) (.int n) = true :=
  or_iff_right (by rintro ⟨⟩)

/-- A text that is to be neither a number nor a truth value stays as it is. -/
theorem eq_text_of_coerce {type : VariableType} (hnumber : type ≠ .number)
    (hboolean : type ≠ .boolean) {s : String} {w : Value} (h : type.coerce (.text s) = .ok w) :
    w = .text s := by
  cases type with
  | number => exact absurd rfl hnumber
  | boolean => exact absurd rfl hboolean
  | string => exact (Except.ok.inj h).symm
  | address | uint256 =>
    rw [VariableType.coerce] at h
    split_ifs at h
    exact (Except.ok.inj h).symm

section

variable {x : Variable} {s : String} (hdefault : x.default = .text s)

include hdefault

/-- A text that is read as a number has the same meaning as a default if no separator is in it and
its digits, where it has nothing else, make a double. -/
theorem defaultValue_equals_iff_of_number (htype : x.type = .number) {w : Value}
    (hw : numberOfText s = .ok w) :
    x.defaultValue.Equals w ↔ VariableType.number.ReadsAlike s := by
  have hcoerced : VariableType.number.coerce (.text s) = .ok w := hw
  have hnumber : w.isNull = false := isNull_of_coerce hcoerced
  rw [VariableType.ReadsAlike]
  unfold Variable.defaultValue
  simp only [htype, hdefault]
  by_cases hseparator : ∃ c ∈ s.toList, Numeral.IsSeparator c
  · -- The default is dropped, as its text is no numeral of a floating-point number.
    obtain ⟨c, hc, hcs⟩ := hseparator
    obtain ⟨e, he⟩ := Numeral.fails_readFloat_of_separator hcs hc
    rw [he]
    exact iff_of_false (not_equals_null hnumber) fun h => h.1 c hc hcs
  · have hnone : ∀ c ∈ s.toList, ¬ Numeral.IsSeparator c := fun c hc hcs =>
      hseparator ⟨c, hc, hcs⟩
    rw [numberOfText] at hw
    split_ifs at hw with hdigits
    · -- Digits become an integer on one side and a double on the other.
      have hdecimal : IsDecimalText (trimmed s) := (isDecimalText_trimmed_iff s).mpr hdigits
      have hfloat := (Numeral.readFloat_trimmed hnone).mp (Numeral.readFloat_of_isNumeral hdecimal)
      rw [Numeral.readInt_of_isNumeral hdecimal] at hw
      split_ifs at hw with hlong
      obtain rfl := Except.ok.inj hw
      rw [hfloat, ← Numeral.ofDigits_digitValues]
      simp only [equals_float_int_iff, Numeral.isSameKey_scaled_iff]
      exact ⟨fun h => ⟨hnone, fun _ => h⟩, fun h => h.2 hdecimal⟩
    · have hdecimal : ¬ IsDecimalText (trimmed s) := fun h =>
        hdigits ((isDecimalText_trimmed_iff s).mp h)
      split at hw
      · next y hy =>
        obtain rfl := Except.ok.inj hw
        rw [(Numeral.readFloat_trimmed hnone).mp hy]
        exact iff_of_true (.inl rfl) ⟨hnone, fun h => absurd h hdecimal⟩
      · cases hw

theorem defaultValue_equals_iff_of_boolean (htype : x.type = .boolean) {b : Bool}
    (hb : booleanOfText? s = some b) :
    x.defaultValue.Equals (.bool b) ↔ VariableType.boolean.ReadsAlike s := by
  rw [VariableType.ReadsAlike]
  unfold Variable.defaultValue
  simp only [htype, hdefault, equals_bool_iff]
  rw [booleanOfText?] at hb
  split_ifs at hb with htrue hfalse
  · -- One of the words for true; `true` itself is the only one that a default knows.
    obtain rfl := Option.some.inj hb
    rw [List.contains_iff_mem, List.mem_cons] at htrue
    rw [beq_iff_eq]
    constructor
    · intro heq
      rw [heq]
      decide
    · exact fun hnone => htrue.resolve_right hnone
  · obtain rfl := Option.some.inj hb
    rw [List.contains_iff_mem] at hfalse
    have hapart : ∀ t ∈ ["false", "0", "no", "n"], t ≠ "true" ∧ t ∉ ["1", "yes", "y"] := by decide
    obtain ⟨hne, hnone⟩ := hapart _ hfalse
    exact iff_of_true (beq_eq_false_iff_ne.mpr hne) hnone

/-- The default of a variable equals what the same text is brought to exactly if the text reads
alike. -/
theorem defaultValue_equals_iff {w : Value} (hw : x.type.coerce (.text s) = .ok w) :
    x.defaultValue.Equals w ↔ x.type.ReadsAlike s := by
  cases htype : x.type with
  | number =>
    rw [htype] at hw
    exact defaultValue_equals_iff_of_number hdefault htype hw
  | boolean =>
    rw [htype, VariableType.coerce] at hw
    split at hw
    · next b hb =>
      obtain rfl := Except.ok.inj hw
      exact defaultValue_equals_iff_of_boolean hdefault htype hb
    · cases hw
  | string | address | uint256 =>
    -- Any other text stays as it is, as a default and as input.
    have hkeep : x.defaultValue = .text s := by
      unfold Variable.defaultValue
      simp only [htype, hdefault]
    rw [htype] at hw
    rw [hkeep, eq_text_of_coerce (by decide) (by decide) hw]
    exact iff_of_true (.inl rfl) trivial

end

/-! ### Inputs with and without the text -/

section

variable {declared : List Variable} {x : Variable} {given : Rows}

theorem Variable.eq_of_name (hnames : Distinct declared) {y : Variable} (hx : x ∈ declared)
    (hy : y ∈ declared) (h : y.name = x.name) : y = x :=
  List.inj_on_of_nodup_map hnames hy hx h

theorem Variable.valueIn_put (x : Variable) (given : Rows) (v : Value) :
    x.valueIn (given.put (.text x.name) v) = v :=
  x.valueIn_enter given (some v)

theorem Variable.valueIn_put_of_ne {y : Variable} (h : y.name ≠ x.name) (given : Rows) (v : Value) :
    y.valueIn (given.put (.text x.name) v) = y.valueIn given :=
  Variable.valueIn_enter_of_ne h given (some v)

/-- A value that is accepted brings no problem with it, and neither does an optional variable
without a value. -/
theorem bindAll_snd_put (hnames : Distinct declared) (hx : x ∈ declared)
    (hoptional : x.required = false) {v : Value} (hv : v.isNull = false)
    (haccepts : x.type.Accepts v) (habsent : (x.valueIn given).isNull = true) :
    (bindAll declared (given.put (.text x.name) v)).2 = (bindAll declared given).2 := by
  rw [bindAll_snd hnames, bindAll_snd hnames]
  refine List.filterMap_congr fun y hy => ?_
  by_cases hname : y.name = x.name
  · obtain rfl := Variable.eq_of_name hnames hx hy hname
    obtain ⟨w, hw⟩ := (exists_coerce_iff _ _).mpr haccepts
    rw [Variable.valueIn_put, Variable.problem?, Variable.problem?, hv, habsent, hoptional, hw]
    rfl
  · rw [Variable.valueIn_put_of_ne hname]

/-- All other values are what they are without the value that is put in. -/
theorem valueIn_bindAll_put_of_ne (hnames : Distinct declared) {y : Variable}
    (hne : y.name ≠ x.name) (given : Rows) (v : Value) :
    y.valueIn (bindAll declared (given.put (.text x.name) v)).1
      = y.valueIn (bindAll declared given).1 := by
  by_cases hy : ∃ z ∈ declared, z.name = y.name
  · -- A variable of this name decides, whatever else the name is used for.
    obtain ⟨z, hz, hname⟩ := hy
    have hzx : z.name ≠ x.name := hname ▸ hne
    have hvalue : ∀ rows : Rows, y.valueIn rows = z.valueIn rows := fun rows => by
      rw [Variable.valueIn, Variable.valueIn, hname]
    rw [hvalue, hvalue, valueIn_bindAll hnames hz, valueIn_bindAll hnames hz,
      Variable.valueIn_put_of_ne hzx]
  · have hnone : ∀ z ∈ declared, y.name ≠ z.name := fun z hz heq => hy ⟨z, hz, heq.symm⟩
    rw [valueIn_bindAll_of_ne hnone, valueIn_bindAll_of_ne hnone, Variable.valueIn_put_of_ne hne]

end

/-- Let an optional variable have a text for a default that would be accepted from a caller.  An
input that lacks the variable is bound to the same values with this text supplied as it is without
it, or fails with the same report; the value of the variable itself is equal exactly if the text
reads alike. -/
theorem textDefault_iff {declared : List Variable} (hnames : Distinct declared) {x : Variable}
    (hx : x ∈ declared) (hoptional : x.required = false) {s : String}
    (hdefault : x.default = .text s) (haccepts : x.type.Accepts (.text s)) {raw raw' : Value}
    {given : Rows} (hgiven : mappingOf raw = .ok given) (habsent : (x.valueIn given).isNull = true)
    (hsupplied : mappingOf raw' = .ok (given.put (.text x.name) (.text s))) :
    (∀ e, bindInputs declared raw = .error e ↔ bindInputs declared raw' = .error e)
      ∧ ∀ bound bound', bindInputs declared raw = .ok bound →
        bindInputs declared raw' = .ok bound' →
          (∀ y : Variable, y.name ≠ x.name → y.valueIn bound' = y.valueIn bound)
          ∧ ((x.valueIn bound).Equals (x.valueIn bound') ↔ x.type.ReadsAlike s) := by
  have hproblems := bindAll_snd_put hnames hx hoptional (v := .text s) rfl haccepts habsent
  refine ⟨fun e => ?_, fun bound bound' hbound hbound' => ?_⟩
  · rw [bindInputs_eq_error_iff hgiven, bindInputs_eq_error_iff hsupplied, hproblems]
  · obtain ⟨rows, hrows, -, rfl⟩ := bindInputs_eq_ok_iff.mp hbound
    obtain rfl := Except.ok.inj (hgiven.symm.trans hrows)
    obtain ⟨rows', hrows', -, rfl⟩ := bindInputs_eq_ok_iff.mp hbound'
    obtain rfl := Except.ok.inj (hsupplied.symm.trans hrows')
    refine ⟨fun y hne => valueIn_bindAll_put_of_ne hnames hne given _, ?_⟩
    obtain ⟨w, hw⟩ := (exists_coerce_iff _ _).mpr haccepts
    have hcoerced : x.valueIn (bindAll declared (given.put (.text x.name) (.text s))).1 = w := by
      rw [valueIn_bindAll hnames hx, Variable.valueIn_put, Variable.bound?, hw]
      rfl
    rw [hcoerced, valueIn_bindAll hnames hx, Variable.bound?, if_pos habsent, hoptional,
      Bool.false_or, ← defaultValue_equals_iff hdefault hw]
    -- A default that is dropped leaves nothing, which is what the input has.
    have hnull : ∀ v : Value, v.isNull = true → v = .null := by
      intro v hv
      cases v with
      | null => rfl
      | _ => cases hv
    split_ifs with hdropped
    · rw [Option.getD_none, hnull _ habsent, hnull _ hdropped]
    · rw [Option.getD_some]

theorem textDefault_iff_urgent :
    ∃ bound bound',
      bindInputs [urgentInput, receiverInput] (.table paymentRows) = .ok bound
      ∧ bindInputs [urgentInput, receiverInput]
          (.table (paymentRows.put (.text "urgent") (.text "TRUE"))) = .ok bound'
      ∧ receiverInput.valueIn bound' = receiverInput.valueIn bound
      ∧ (urgentInput.valueIn bound).Equals (urgentInput.valueIn bound') := by
  have hbound : bindInputs [urgentInput, receiverInput] (.table paymentRows)
      = .ok (paymentRows ++ [(.text "urgent", .bool true)]) := by cbv
  have hbound' : bindInputs [urgentInput, receiverInput]
      (.table (paymentRows.put (.text "urgent") (.text "TRUE")))
        = .ok (paymentRows ++ [(.text "urgent", .bool true)]) := by cbv
  have hnames : Distinct [urgentInput, receiverInput] := by decide
  have haccepts : urgentInput.type.Accepts (.text "TRUE") := by decide
  have hgiven : mappingOf (.table paymentRows) = .ok paymentRows := rfl
  have hsupplied : mappingOf (.table (paymentRows.put (.text "urgent") (.text "TRUE")))
      = .ok (paymentRows.put (.text urgentInput.name) (.text "TRUE")) := rfl
  obtain ⟨-, hvalues⟩ := textDefault_iff hnames List.mem_cons_self rfl rfl haccepts hgiven rfl
    hsupplied
  obtain ⟨hothers, hself⟩ := hvalues _ _ hbound hbound'
  refine ⟨_, _, hbound, hbound', hothers receiverInput (by decide), hself.mpr ?_⟩
  show Text.lower (trimmed "TRUE") ∉ ["1", "yes", "y"]
  decide

/-- Whether a payment is to be signed by two, in a word that a default does not know. -/
def jointInput : Variable := { name := "joint", type := .boolean, default := .text "yes" }

/-- The number of a payment, which no double has. -/
def serialInput : Variable :=
  { name := "serial", type := .number, default := .text "9007199254740993" }

theorem not_isDouble_serial : ¬ Decimal.IsDouble 9007199254740993 := by
  rintro ⟨-, m, e, hm, heq⟩
  cases e with
  | zero => omega
  | succ e =>
    rw [pow_succ, ← mul_assoc] at heq
    omega

/-- A text that is accepted from a caller can mean something else as a default: a truth value is
turned over, and a number loses a digit. -/
theorem textDefault_reads_otherwise :
    (VariableType.boolean.Accepts (.text "yes")
      ∧ bindInputs [jointInput] (.table []) = .ok [(.text "joint", .bool false)]
      ∧ bindInputs [jointInput] (.table [(.text "joint", .text "yes")])
          = .ok [(.text "joint", .bool true)]
      ∧ ¬ (Value.bool false).Equals (.bool true))
    ∧ VariableType.number.Accepts (.text "9007199254740993")
      ∧ bindInputs [serialInput] (.table []) = .ok [(.text "serial", serialInput.defaultValue)]
      ∧ bindInputs [serialInput] (.table [(.text "serial", .text "9007199254740993")])
          = .ok [(.text "serial", .int 9007199254740993)]
      ∧ ¬ serialInput.defaultValue.Equals (.int 9007199254740993) := by
  have hcoerce : serialInput.type.coerce (.text "9007199254740993")
      = .ok (.int 9007199254740993) := by cbv
  have hdigits : IsDecimalText (trimmed "9007199254740993") := by decide
  have hvalue : Text.digitsValue (trimmed "9007199254740993").toList = 9007199254740993 := by cbv
  refine ⟨⟨by decide, by cbv, by cbv, by rw [equals_bool_iff]; decide⟩,
    (exists_coerce_iff _ _).mp ⟨_, hcoerce⟩, rfl, by cbv, fun hequal => not_isDouble_serial ?_⟩
  rw [← hvalue]
  exact ((defaultValue_equals_iff rfl hcoerce).mp hequal).2 hdigits

end Workflow
