import Workflow.Proofs.Abi.Declarations
import Workflow.Proofs.Call.Targets
import Workflow.Proofs.Decimal.Numerals

/-!
# What the types of variables let through

Each type of a variable has values of its own (`VariableType.Has`), and it accepts more than these
where a value can be brought to the type: integers and texts for numbers, and words for truth values
(`VariableType.Accepts`).  Bringing a value to a type goes well exactly if the type accepts the
value (`exists_coerce_iff`), and what comes out is of the type except where a line break has
slipped through behind an address or a number (`has_coerced_iff`).

The digits of an unsigned number are those of any script.
-/

namespace Workflow

/-! ### Sequences of digits -/

/-- Whether a text is a sequence of decimal digits, not empty, and nothing else. -/
def IsDecimalText (s : String) : Prop := Path.IsNumeral s.toList

/-- Whether a text passes for such a sequence: one line break may stand behind it. -/
def PassesForDecimal (s : String) : Prop :=
  IsDecimalText s ∨ ∃ t, s = t ++ "\n" ∧ IsDecimalText t

theorem isDecimalText_ofList {cs : List Char} :
    IsDecimalText (String.ofList cs) ↔ Path.IsNumeral cs := by
  rw [IsDecimalText, String.toList_ofList]

theorem newline_not_mem_of_isNumeral {cs : List Char} (h : Path.IsNumeral cs) : '\n' ∉ cs := by
  intro hmem
  have hdigit := h.2 '\n' hmem
  revert hdigit
  decide

/-- A line break is a character that no sequence of digits has. -/
theorem not_isDecimalText_of_newline (t : String) : ¬ IsDecimalText (t ++ "\n") := by
  intro h
  refine newline_not_mem_of_isNumeral h ?_
  rw [String.toList_append]
  exact List.mem_append_right _ List.mem_cons_self

theorem isDigits_eq (s : String) :
    isDigits s = true ↔ Path.IsNumeral (Hex.dropFinalNewline s.toList) := by
  rw [isDigits, Path.IsNumeral]
  simp only [Bool.and_eq_true, Bool.not_eq_true', List.isEmpty_eq_false_iff, List.all_eq_true]

theorem passesForDecimal_iff {s : String} : PassesForDecimal s ↔ isDigits s = true := by
  rw [isDigits_eq]
  constructor
  · rintro (h | ⟨t, rfl, h⟩)
    · rw [Hex.dropFinalNewline_of_not_mem (newline_not_mem_of_isNumeral h)]
      exact h
    · have hlast : (t ++ "\n").toList = t.toList ++ ['\n'] := String.toList_append
      rw [hlast, Hex.dropFinalNewline_append]
      exact h
  · intro h
    rcases Hex.eq_dropFinalNewline_or s.toList with heq | heq
    · left
      rw [IsDecimalText, heq]
      exact h
    · right
      refine ⟨String.ofList (Hex.dropFinalNewline s.toList), ?_, isDecimalText_ofList.mpr h⟩
      rw [← String.toList_inj, String.toList_append, String.toList_ofList]
      exact heq

instance PassesForDecimal.decidable (s : String) : Decidable (PassesForDecimal s) :=
  decidable_of_iff _ passesForDecimal_iff.symm

instance IsDecimalText.decidable (s : String) : Decidable (IsDecimalText s) :=
  inferInstanceAs (Decidable (Path.IsNumeral s.toList))

/-- Behind a trimmed text there is no line break. -/
theorem isDecimalText_trimmed_iff (s : String) :
    IsDecimalText (trimmed s) ↔ isDigits (trimmed s) = true := by
  rw [← passesForDecimal_iff, PassesForDecimal]
  constructor
  · exact .inl
  · rintro (h | ⟨t, hline, -⟩)
    · exact h
    · exfalso
      have hlast : Text.trim s.toList = t.toList ++ ['\n'] := by
        rw [trimmed, ← String.toList_inj, String.toList_ofList, String.toList_append] at hline
        exact hline
      obtain ⟨-, -, -, -, -, hnil | ⟨-, front, c, hend, hc⟩⟩ := Text.exists_trim s.toList
      · rw [hnil] at hlast
        exact List.concat_ne_nil _ _ hlast.symm
      · rw [hend] at hlast
        obtain ⟨-, hbreak⟩ := List.append_inj' hlast rfl
        rw [(List.cons.inj hbreak).1] at hc
        revert hc
        decide

/-! ### Values of a type and values it accepts -/

/-- Whether a text stands for a number: a sequence of digits that is not too long, or the numeral of
a floating-point number. -/
def IsNumberText (s : String) : Prop :=
  if IsDecimalText s then s.toList.length ≤ Numeral.digitLimit
  else ∃ x, Numeral.readFloat s = .ok x

/-- The words for truth values, in lower case. -/
def truthWords : List String := ["true", "1", "yes", "y", "false", "0", "no", "n"]

/-- Whether a value is of a type. -/
def VariableType.Has (type : VariableType) (v : Value) : Prop :=
  match type with
  | .string => ∃ s, v = .text s
  | .number => (∃ n, v = .int n) ∨ ∃ x, v = .float x
  | .address => ∃ s, v = .text s ∧ IsAddressText s
  | .uint256 => ∃ s, v = .text s ∧ IsDecimalText s
  | .boolean => ∃ b, v = .bool b

/-- Whether a type accepts a value: the value is of the type or can be brought to it, or it is the
text of an address or a number with a line break behind it. -/
def VariableType.Accepts (type : VariableType) (v : Value) : Prop :=
  match type with
  | .string => ∃ s, v = .text s
  | .number => (∃ n, v = .int n) ∨ (∃ x, v = .float x) ∨ ∃ s, v = .text s ∧ IsNumberText (trimmed s)
  | .address => ∃ s, v = .text s ∧ PassesForAddress s
  | .uint256 => (∃ n : Nat, v = .int n ∧ n < 10 ^ Numeral.digitLimit)
    ∨ ∃ s, v = .text s ∧ PassesForDecimal s
  | .boolean => (∃ b, v = .bool b) ∨ ∃ s, v = .text s ∧ Text.lower (trimmed s) ∈ truthWords

theorem exists_numeralOf_iff (n : Int) :
    (∃ w, numeralOf n = .ok w) ↔ ∃ m : Nat, n = m ∧ m < 10 ^ Numeral.digitLimit := by
  have hwritable : (Value.int n).isWritable = true ↔ n.natAbs < 10 ^ Numeral.digitLimit := by
    rw [Value.isWritable, decide_eq_true_iff, Nat.pow_eq]
  rw [numeralOf]
  split_ifs with hneg hlong
  · exact iff_of_false (by rintro ⟨_, ⟨⟩⟩) (by rintro ⟨m, rfl, -⟩; omega)
  · rw [hwritable] at hlong
    exact iff_of_true ⟨_, rfl⟩ ⟨n.natAbs, by omega, hlong⟩
  · rw [hwritable] at hlong
    refine iff_of_false (by rintro ⟨_, ⟨⟩⟩) ?_
    rintro ⟨m, rfl, hm⟩
    exact hlong hm

theorem exists_numberOfText_iff (s : String) :
    (∃ w, numberOfText s = .ok w) ↔ IsNumberText (trimmed s) := by
  rw [numberOfText, IsNumberText]
  split_ifs with hdigits hdecimal hdecimal
  · rw [← Numeral.exists_readInt_iff hdecimal]
    cases Numeral.readInt (trimmed s) with
    | ok n => exact iff_of_true ⟨_, rfl⟩ ⟨_, rfl⟩
    | error e => exact iff_of_false (by rintro ⟨_, ⟨⟩⟩) (by rintro ⟨_, ⟨⟩⟩)
  · exact absurd ((isDecimalText_trimmed_iff s).mpr hdigits) hdecimal
  · exact absurd ((isDecimalText_trimmed_iff s).mp hdecimal) hdigits
  · cases Numeral.readFloat (trimmed s) with
    | ok x => exact iff_of_true ⟨_, rfl⟩ ⟨_, rfl⟩
    | error e => exact iff_of_false (by rintro ⟨_, ⟨⟩⟩) (by rintro ⟨_, ⟨⟩⟩)

theorem exists_booleanOfText?_iff (s : String) :
    (∃ b, booleanOfText? s = some b) ↔ Text.lower (trimmed s) ∈ truthWords := by
  have hwords : ∀ t : String, t ∈ truthWords ↔ ["true", "1", "yes", "y"].contains t = true
      ∨ ["false", "0", "no", "n"].contains t = true := by
    intro t
    rw [List.contains_iff_mem, List.contains_iff_mem, ← List.mem_append]
    rfl
  rw [booleanOfText?, hwords]
  split_ifs with htrue hfalse
  · exact iff_of_true ⟨_, rfl⟩ (.inl htrue)
  · exact iff_of_true ⟨_, rfl⟩ (.inr hfalse)
  · exact iff_of_false (by rintro ⟨_, ⟨⟩⟩) (not_or.mpr ⟨htrue, hfalse⟩)

section

variable (v : Value)

theorem exists_coerce_uint256_iff :
    (∃ w, VariableType.uint256.coerce v = .ok w) ↔ VariableType.uint256.Accepts v := by
  cases v with
  | int n =>
    rw [VariableType.coerce, exists_numeralOf_iff]
    constructor
    · rintro ⟨m, rfl, hm⟩
      exact .inl ⟨m, rfl, hm⟩
    · rintro (⟨m, hm, hlt⟩ | ⟨_, ⟨⟩, -⟩)
      exact ⟨m, Value.int.inj hm, hlt⟩
  | text s =>
    rw [VariableType.coerce]
    split_ifs with hdigits
    · exact iff_of_true ⟨_, rfl⟩ (.inr ⟨s, rfl, passesForDecimal_iff.mpr hdigits⟩)
    · refine iff_of_false (by rintro ⟨_, ⟨⟩⟩) ?_
      rintro (⟨_, ⟨⟩, -⟩ | ⟨_, ⟨⟩, h⟩)
      exact hdigits (passesForDecimal_iff.mp h)
  | _ => exact iff_of_false (by rintro ⟨_, ⟨⟩⟩) (by rintro (⟨_, ⟨⟩, -⟩ | ⟨_, ⟨⟩, -⟩))

theorem exists_coerce_number_iff :
    (∃ w, VariableType.number.coerce v = .ok w) ↔ VariableType.number.Accepts v := by
  cases v with
  | int n => exact iff_of_true ⟨_, rfl⟩ (.inl ⟨n, rfl⟩)
  | float x => exact iff_of_true ⟨_, rfl⟩ (.inr (.inl ⟨x, rfl⟩))
  | text s =>
    rw [VariableType.coerce, exists_numberOfText_iff]
    constructor
    · exact fun h => .inr (.inr ⟨s, rfl, h⟩)
    · rintro (⟨_, ⟨⟩⟩ | ⟨_, ⟨⟩⟩ | ⟨_, ⟨⟩, h⟩)
      exact h
  | _ => exact iff_of_false (by rintro ⟨_, ⟨⟩⟩) (by rintro (⟨_, ⟨⟩⟩ | ⟨_, ⟨⟩⟩ | ⟨_, ⟨⟩, -⟩))

theorem exists_coerce_boolean_iff :
    (∃ w, VariableType.boolean.coerce v = .ok w) ↔ VariableType.boolean.Accepts v := by
  cases v with
  | bool b => exact iff_of_true ⟨_, rfl⟩ (.inl ⟨b, rfl⟩)
  | text s =>
    rw [VariableType.coerce]
    have hwords := exists_booleanOfText?_iff s
    cases hb : booleanOfText? s with
    | some b => exact iff_of_true ⟨_, rfl⟩ (.inr ⟨s, rfl, hwords.mp ⟨b, hb⟩⟩)
    | none =>
      refine iff_of_false (by rintro ⟨_, ⟨⟩⟩) ?_
      rintro (⟨_, ⟨⟩⟩ | ⟨_, ⟨⟩, h⟩)
      obtain ⟨b, hsome⟩ := hwords.mpr h
      rw [hb] at hsome
      cases hsome
  | _ => exact iff_of_false (by rintro ⟨_, ⟨⟩⟩) (by rintro (⟨_, ⟨⟩⟩ | ⟨_, ⟨⟩, -⟩))

end

/-- A value can be brought to a type exactly if the type accepts it. -/
theorem exists_coerce_iff (type : VariableType) (v : Value) :
    (∃ w, type.coerce v = .ok w) ↔ type.Accepts v := by
  cases type with
  | string =>
    cases v with
    | text s => exact iff_of_true ⟨_, rfl⟩ ⟨s, rfl⟩
    | _ => exact iff_of_false (by rintro ⟨_, ⟨⟩⟩) (by rintro ⟨_, ⟨⟩⟩)
  | address =>
    cases v with
    | text s =>
      rw [exists_coerce_address_iff, ← passesForAddress_iff]
      constructor
      · exact fun h => ⟨s, rfl, h⟩
      · rintro ⟨_, ⟨⟩, h⟩
        exact h
    | _ => exact iff_of_false (by rintro ⟨_, ⟨⟩⟩) (by rintro ⟨_, ⟨⟩, -⟩)
  | uint256 => exact exists_coerce_uint256_iff v
  | number => exact exists_coerce_number_iff v
  | boolean => exact exists_coerce_boolean_iff v

instance VariableType.decidableAccepts (type : VariableType) (v : Value) :
    Decidable (type.Accepts v) :=
  decidable_of_iff ((type.coerce v).isOk = true) (by
    rw [← exists_coerce_iff]
    cases type.coerce v with
    | ok w => exact iff_of_true rfl ⟨w, rfl⟩
    | error e => exact iff_of_false (by rintro ⟨⟩) (by rintro ⟨_, ⟨⟩⟩))

/-! ### What comes out -/

/-- Whether a value is a text with a line break behind it, and of a type that has no such texts. -/
def VariableType.LineBreaks (type : VariableType) (v : Value) : Prop :=
  (type = .address ∨ type = .uint256) ∧ ∃ t, v = .text (t ++ "\n")

theorem VariableType.not_lineBreaks {type : VariableType} (haddress : type ≠ .address)
    (hnumber : type ≠ .uint256) (v : Value) : ¬ type.LineBreaks v :=
  fun h => h.1.elim haddress hnumber

/-- The number of a variable is written in digits. -/
theorem isDecimalText_of_numeralOf {n : Int} {w : Value} (h : numeralOf n = .ok w) :
    ∃ s, w = .text s ∧ IsDecimalText s := by
  obtain ⟨m, rfl, -⟩ := (exists_numeralOf_iff n).mp ⟨w, h⟩
  rw [numeralOf] at h
  split_ifs at h
  obtain rfl := Except.ok.inj h
  exact ⟨_, rfl, Abi.isNumeral_toString m⟩

theorem isNumber_of_numberOfText {s : String} {w : Value} (h : numberOfText s = .ok w) :
    VariableType.number.Has w := by
  rw [numberOfText] at h
  split_ifs at h
  · split at h
    · exact .inl ⟨_, (Except.ok.inj h).symm⟩
    · cases h
  · split at h
    · exact .inr ⟨_, (Except.ok.inj h).symm⟩
    · cases h

/-- What a value becomes is of the type, where the type has no pattern for its texts. -/
theorem VariableType.has_coerced {type : VariableType} {v w : Value} (haddress : type ≠ .address)
    (hnumber : type ≠ .uint256) (h : type.coerce v = .ok w) : type.Has w := by
  cases type with
  | string =>
    cases v with
    | text s => exact ⟨s, (Except.ok.inj h).symm⟩
    | _ => cases h
  | number =>
    cases v with
    | int n => exact .inl ⟨n, (Except.ok.inj h).symm⟩
    | float x => exact .inr ⟨x, (Except.ok.inj h).symm⟩
    | text s =>
      have hread : numberOfText s = .ok w := h
      exact isNumber_of_numberOfText hread
    | _ => cases h
  | boolean =>
    cases v with
    | bool b => exact ⟨b, (Except.ok.inj h).symm⟩
    | text s =>
      rw [VariableType.coerce] at h
      split at h
      · exact ⟨_, (Except.ok.inj h).symm⟩
      · cases h
    | _ => cases h
  | address => exact absurd rfl haddress
  | uint256 => exact absurd rfl hnumber

/-- A text that passes the pattern of its type is of the type, unless it ends in a line break. -/
theorem VariableType.has_text_iff {type : VariableType} {Written : String → Prop} {s : String}
    (htype : type = .address ∨ type = .uint256)
    (hhas : ∀ v, type.Has v ↔ ∃ s, v = .text s ∧ Written s)
    (hbreak : ∀ t, ¬ Written (t ++ "\n")) (hs : Written s ∨ ∃ t, s = t ++ "\n" ∧ Written t) :
    type.Has (.text s) ↔ ¬ type.LineBreaks (.text s) := by
  rw [hhas]
  constructor
  · rintro ⟨_, ⟨⟩, hwritten⟩ ⟨-, t, ht⟩
    rw [Value.text.inj ht] at hwritten
    exact hbreak t hwritten
  · intro hno
    rcases hs with hwritten | ⟨t, rfl, -⟩
    · exact ⟨s, rfl, hwritten⟩
    · exact absurd ⟨htype, t, rfl⟩ hno

/-- What a value becomes is of the type, unless there is a line break behind it. -/
theorem has_coerced_iff {type : VariableType} {v w : Value} (h : type.coerce v = .ok w) :
    type.Has w ↔ ¬ type.LineBreaks v := by
  -- Only the last two types know line breaks; there the value is a text and stays as it is.
  cases type with
  | string | number | boolean =>
    exact iff_of_true (VariableType.has_coerced (by decide) (by decide) h)
      (VariableType.not_lineBreaks (by decide) (by decide) v)
  | address =>
    obtain ⟨s, rfl, hs⟩ := (exists_coerce_iff .address v).mp ⟨w, h⟩
    rw [VariableType.coerce, if_pos (passesForAddress_iff.mp hs)] at h
    obtain rfl := Except.ok.inj h
    exact VariableType.has_text_iff (.inl rfl) (fun _ => Iff.rfl) not_isAddressText_of_newline
      hs
  | uint256 =>
    cases v with
    | int n =>
      exact iff_of_true (isDecimalText_of_numeralOf h) (by rintro ⟨-, _, ⟨⟩⟩)
    | text s =>
      rw [VariableType.coerce] at h
      split_ifs at h with hdigits
      obtain rfl := Except.ok.inj h
      exact VariableType.has_text_iff (.inr rfl) (fun _ => Iff.rfl) not_isDecimalText_of_newline
        (passesForDecimal_iff.mpr hdigits)
    | _ => cases h

/-- A default is a value of its type exactly if it is declared as one, or as a text where a number
or a truth value is read from it. -/
theorem has_default_iff {x : Variable} (h : x.defaultValue ≠ .null) :
    x.type.Has x.defaultValue ↔
      x.type.Has x.default ∨ (x.type = .number ∨ x.type = .boolean) ∧ ∃ s, x.default = .text s := by
  obtain ⟨name, type, required, default, description⟩ := x
  cases default with
  | text s =>
    cases type with
    | number =>
      refine iff_of_true ?_ (.inr ⟨.inl rfl, s, rfl⟩)
      rw [Variable.defaultValue] at h ⊢
      simp only at h ⊢
      split at h
      · next f _ => exact .inr ⟨f, rfl⟩
      · exact absurd rfl h
    | boolean => exact iff_of_true ⟨_, rfl⟩ (.inr ⟨.inr rfl, s, rfl⟩)
    | _ => exact (or_iff_left fun h => h.1.elim (by rintro ⟨⟩) (by rintro ⟨⟩)).symm
  | _ => cases type <;> exact (or_iff_left (by rintro ⟨-, _, ⟨⟩⟩)).symm

end Workflow
