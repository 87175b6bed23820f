import Workflow.Proofs.Abi.Encodings
import Workflow.Proofs.Input.Bound

/-!
# Amounts that have been bound

A value that is accepted for an unsigned number is bound as a text of digits, behind which a line
break may stand.  Binding looks neither at the size of the number nor at how many digits there are;
both count as soon as the text is used, as the amount of a call (`unsignedWord`) or as an argument
of a function (`Parameter.coerce` and the codec of the type).

So a bound text serves as the number that was supplied exactly if it is usable (`IsUsable`), and is
refused otherwise (`bound_amount_usable_iff`).
-/

namespace Workflow

open Outcome

/-! ### Texts of digits -/

/-- The digits of a text, less the line break that may stand behind them. -/
def amountDigits (s : String) : List Char := Hex.dropFinalNewline s.toList

/-- The number that the digits of a text denote. -/
def amountOf (s : String) : Nat := Text.digitsValue (amountDigits s)

/-- Whether the number of a text fits into a word and its digits are not too many. -/
def IsUsable (s : String) : Prop :=
  amountOf s < 2 ^ 256 ∧ (amountDigits s).length ≤ Numeral.digitLimit

instance IsUsable.decidable (s : String) : Decidable (IsUsable s) :=
  inferInstanceAs (Decidable (_ ∧ _))

theorem isNumeral_amountDigits {s : String} (h : PassesForDecimal s) :
    Path.IsNumeral (amountDigits s) := (isDigits_eq s).mp (passesForDecimal_iff.mp h)

/-- A number is written in its own digits. -/
theorem amountOf_toString (n : Nat) : amountOf (toString n) = n := by
  have hdigits : (toString n).toList = Nat.toDigits 10 n := String.toList_ofList
  rw [amountOf, amountDigits,
    Hex.dropFinalNewline_of_not_mem (newline_not_mem_of_isNumeral (Abi.isNumeral_toString n)),
    hdigits, Text.digitsValue_toDigits]

/-- Trimming takes the line break away and nothing else. -/
theorem trimmed_of_passesForDecimal {s : String} (h : PassesForDecimal s) :
    trimmed s = String.ofList (amountDigits s) := by
  have hdigits := isNumeral_amountDigits h
  obtain ⟨hstart, hend⟩ := Text.solid_of_not_blank hdigits.1 fun c hc =>
    isBlank_of_isDigit (hdigits.2 c hc)
  rw [trimmed]
  congr 1
  -- Trimming stops at the first and at the last digit, as no digit is a blank.
  rcases Hex.eq_dropFinalNewline_or s.toList with heq | heq
  · have hcut := Text.trim_padded Text.blanks_nil hstart hend Text.blanks_nil
    rw [List.nil_append, List.append_nil] at hcut
    rw [heq]
    exact hcut
  · have hbreak : Text.Blanks ['\n'] := List.forall_mem_singleton.mpr (by decide)
    have hcut := Text.trim_padded Text.blanks_nil hstart hend hbreak
    rw [heq]
    exact hcut

/-- Digits do not start with the mark of a hexadecimal numeral. -/
theorem isMarked_of_isNumeral {cs : List Char} (h : Path.IsNumeral cs) :
    Hex.isMarked cs = false := by
  match cs with
  | [] => rfl
  | [c] => simp [Hex.isMarked]
  | c :: x :: rest =>
    rw [Bool.eq_false_iff, Ne, Hex.isMarked_cons_cons_iff]
    rintro ⟨-, hx⟩
    have hdigit : Text.isDigit x = true := h.2 x (List.mem_cons_of_mem _ List.mem_cons_self)
    rcases hx with rfl | rfl <;> revert hdigit <;> decide

/-- The number of a text of digits is read unless there are too many of them. -/
theorem integerOfText?_of_passesForDecimal {s : String} (h : PassesForDecimal s) :
    integerOfText? s = if (amountDigits s).length ≤ Numeral.digitLimit then some (amountOf s : Int)
      else none := by
  have hdigits := isNumeral_amountDigits h
  have hlist : (String.ofList (amountDigits s)).toList = amountDigits s := String.toList_ofList
  have hread := Numeral.readInt_of_isNumeral (s := String.ofList (amountDigits s))
    (by rw [hlist]; exact hdigits)
  rw [hlist] at hread
  have hunsigned : ∀ rest, amountDigits s ≠ '-' :: rest := fun rest =>
    Numeral.ne_cons_of_isNumeral hdigits (by decide) rest
  rw [integerOfText?, trimmed_of_passesForDecimal h, hlist]
  simp only [isMarked_of_isNumeral hdigits, Bool.false_eq_true, if_false, hread]
  by_cases hlong : Numeral.digitLimit < (amountDigits s).length
  · rw [if_pos hlong, if_neg (by omega)]
    rfl
  · rw [if_neg hlong, if_pos (by omega)]
    rfl

/-! ### Where the text is used -/

/-- What becomes of a text of digits. -/
structure ServesAs (s : String) (n : Nat) : Prop where
  /-- As an amount it is the number if it is usable, and nothing otherwise. -/
  word : ∀ label m, unsignedWord label (.text s) = .ok m ↔ IsUsable s ∧ m = n
  /-- The two reasons to refuse an amount. -/
  wordRefused : ∀ label e, unsignedWord label (.text s) = .error e →
    Numeral.digitLimit < (amountDigits s).length ∧ e = .coding (.notInteger label (.text s))
      ∨ 2 ^ 256 ≤ n ∧ e = .coding (.outOfRange label (.text s))
  /-- As an argument it is the number if it is usable, and nothing otherwise. -/
  argument : ∀ (p : Abi.Parameter) label bs, p.type = "uint256" →
    ((∃ w, p.coerce label (.text s) = .ok w ∧ (Abi.Codec.uint 256).encode w = .ok bs)
      ↔ IsUsable s ∧ bs = Abi.word n)

section

variable {s : String} (h : PassesForDecimal s)

include h

theorem integer_of_passesForDecimal (label : String) :
    integer label (.text s)
      = if (amountDigits s).length ≤ Numeral.digitLimit then .ok (amountOf s : Int)
        else .error (.coding (.notInteger label (.text s))) := by
  rw [integer, integerOfText?_of_passesForDecimal h]
  split_ifs <;> rfl

theorem coerce_uint256_of_passesForDecimal {p : Abi.Parameter} (hp : p.type = "uint256")
    (label : String) :
    p.coerce label (.text s)
      = if (amountDigits s).length ≤ Numeral.digitLimit then .ok (.int (amountOf s))
        else .error (.coding (.notInteger (Abi.argumentLabel label) (.text s))) := by
  obtain ⟨name, type, components⟩ := p
  obtain rfl : type = "uint256" := hp
  have hlayers : Abi.Layers.ofType "uint256" = .base "uint256" := by cbv
  have hbase : Abi.startsWith "(" "uint256" = false := by decide
  have hrule : (Abi.startsWith "uint" "uint256" || Abi.startsWith "int" "uint256") = true := by
    decide
  rw [Abi.Parameter.coerce, hlayers, Abi.Layers.coerce, hbase, if_neg Bool.false_ne_true,
    Abi.coerceElementary, if_pos hrule, integer_of_passesForDecimal h]
  split_ifs <;> rfl

theorem servesAs_of_passesForDecimal : ServesAs s (amountOf s) where
  word label m := by
    rw [unsignedWord_eq_ok_iff, integer_of_passesForDecimal h, IsUsable]
    split_ifs with hshort
    · rw [Except.ok.injEq, Int.natCast_inj]
      constructor
      · rintro ⟨rfl, hlt⟩
        exact ⟨⟨hlt, hshort⟩, rfl⟩
      · rintro ⟨⟨hlt, -⟩, rfl⟩
        exact ⟨rfl, hlt⟩
    · exact iff_of_false (by rintro ⟨⟨⟩, -⟩) fun husable => hshort husable.1.2
  wordRefused label e he := by
    rw [unsignedWord_eq, integer_of_passesForDecimal h] at he
    by_cases hshort : (amountDigits s).length ≤ Numeral.digitLimit
    · -- The number has been read, and digits are not negative, so it must be too large.
      rw [if_pos hshort, Except.bind] at he
      split_ifs at he with hbounds
      refine .inr ⟨?_, (Except.error.inj he).symm⟩
      by_contra hlt
      exact hbounds ⟨Int.natCast_nonneg _, Int.ofNat_lt.mpr (Nat.not_le.mp hlt)⟩
    · rw [if_neg hshort] at he
      exact .inl ⟨Nat.not_le.mp hshort, (Except.error.inj he).symm⟩
  argument p label bs hp := by
    rw [coerce_uint256_of_passesForDecimal h hp, IsUsable]
    split_ifs with hshort
    · constructor
      · rintro ⟨_, ⟨⟩, hencode⟩
        obtain ⟨n, heq, hbounds, rfl⟩ := Abi.encode_uint_eq_ok_iff.mp hencode
        obtain rfl := Value.int.inj heq
        have hlt : amountOf s < 2 ^ 256 := (Abi.le_greatestUnsigned_iff _).mp hbounds
        exact ⟨⟨hlt, hshort⟩, Abi.signedWord_natCast hlt⟩
      · rintro ⟨⟨hlt, -⟩, rfl⟩
        exact ⟨_, rfl, Abi.encode_uint_of_lt hlt⟩
    · exact iff_of_false (by rintro ⟨_, ⟨⟩, -⟩) fun husable => hshort husable.1.2

end

/-! ### Amounts of an input -/

/-- An integer is written down and a text of digits is left as it is. -/
theorem eq_text_of_coerce_uint256 {v w : Value} (h : VariableType.uint256.coerce v = .ok w) :
    ∃ s, w = .text s ∧ PassesForDecimal s ∧ (v = .text s ∨ v = .int (amountOf s)) := by
  rcases (exists_coerce_iff .uint256 v).mp ⟨w, h⟩ with ⟨n, rfl, -⟩ | ⟨s, rfl, hs⟩
  · have hn : numeralOf n = .ok w := h
    rw [numeralOf, if_neg (by omega)] at hn
    split_ifs at hn
    refine ⟨toString n, (Except.ok.inj hn).symm, .inl (Abi.isNumeral_toString n), .inr ?_⟩
    rw [amountOf_toString]
  · rw [VariableType.coerce, if_pos (passesForDecimal_iff.mp hs)] at h
    exact ⟨s, (Except.ok.inj h).symm, hs, .inl rfl⟩

/-- A value that was supplied has been brought to its type in an input that is bound. -/
theorem coerce_of_bindInputs {declared : List Variable} (hnames : Distinct declared) {raw : Value}
    {given bound : Rows} (hgiven : mappingOf raw = .ok given)
    (hbound : bindInputs declared raw = .ok bound) {x : Variable} (hx : x ∈ declared)
    (hvalue : (x.valueIn given).isNull = false) :
    x.type.coerce (x.valueIn given) = .ok (x.valueIn bound) := by
  obtain ⟨rows, hrows, hnone, rfl⟩ := bindInputs_eq_ok_iff.mp hbound
  obtain rfl := Except.ok.inj (hgiven.symm.trans hrows)
  rw [bindAll_snd hnames, List.filterMap_eq_nil_iff] at hnone
  have hclean := hnone x hx
  rw [Variable.problem?, hvalue, if_neg Bool.false_ne_true] at hclean
  rw [valueIn_bindAll hnames hx, Variable.bound?, hvalue, if_neg Bool.false_ne_true]
  cases hw : x.type.coerce (x.valueIn given) with
  | ok w => rfl
  | error e =>
    rw [hw] at hclean
    cases hclean

/-- A value that is supplied for an unsigned number is bound as a text of digits that denote it.
The text serves as this number, as the amount of a call and as an argument, exactly if the number
fits into a word and has not too many digits; otherwise its use is refused. -/
theorem bound_amount_usable_iff {declared : List Variable} (hnames : Distinct declared)
    {raw : Value} {given bound : Rows} (hgiven : mappingOf raw = .ok given)
    (hbound : bindInputs declared raw = .ok bound) {x : Variable} (hx : x ∈ declared)
    (htype : x.type = .uint256) (hvalue : (x.valueIn given).isNull = false) :
    ∃ s, x.valueIn bound = .text s ∧ PassesForDecimal s
      ∧ (x.valueIn given = .text s ∨ x.valueIn given = .int (amountOf s))
      ∧ ServesAs s (amountOf s) := by
  have hcoerce := coerce_of_bindInputs hnames hgiven hbound hx hvalue
  rw [htype] at hcoerce
  obtain ⟨s, heq, hs, hfrom⟩ := eq_text_of_coerce_uint256 hcoerce
  exact ⟨s, heq, hs, hfrom, servesAs_of_passesForDecimal hs⟩

/-- An amount of twelve. -/
def amountRows : Rows := [(.text "amount", .text "12")]

theorem bound_amount_usable_iff_amountRows :
    ∃ bound, bindInputs [amountInput] (.table amountRows) = .ok bound
      ∧ unsignedWord "value" (amountInput.valueIn bound) = .ok 12 := by
  have hbound : bindInputs [amountInput] (.table amountRows) = .ok amountRows := by cbv
  obtain ⟨s, hs, -, -, hserves⟩ := bound_amount_usable_iff (show Distinct [amountInput] by decide)
    (show mappingOf (.table amountRows) = .ok amountRows from rfl) hbound List.mem_cons_self rfl rfl
  refine ⟨_, hbound, ?_⟩
  obtain rfl : "12" = s := Value.text.inj hs
  have hamount : amountOf "12" = 12 := by cbv
  have husable : IsUsable "12" := by
    rw [IsUsable, hamount]
    exact ⟨Nat.lt_trans (show 12 < 256 by decide) Nat.lt_two_pow_self, by decide⟩
  exact (hserves.word "value" 12).mpr ⟨husable, hamount.symm⟩

theorem bindInputs_amount {s : String} (h : PassesForDecimal s) :
    bindInputs [amountInput] (.table [(.text "amount", .text s)])
      = .ok [(.text "amount", .text s)] := by
  have hcoerce : amountInput.type.coerce (.text s) = .ok (.text s) :=
    if_pos (passesForDecimal_iff.mp h)
  have hvalue : amountInput.valueIn [(.text "amount", .text s)] = .text s := rfl
  have hgiven : mappingOf (.table [(.text "amount", .text s)])
      = .ok [(.text "amount", .text s)] := rfl
  rw [bindInputs_eq hgiven, bindAll_cons, hvalue, Variable.bound?, Variable.problem?, hcoerce]
  rfl

/-- The least number that is too large for a word. -/
def hugeAmount : String :=
  "115792089237316195423570985008687907853269984665640564039457584007913129639936"

/-- Zero, with more digits than are read. -/
def longAmount : String := String.ofList (List.replicate 4301 '0')

/-- Two amounts get through binding and are of no use behind it. -/
theorem bound_amounts_refused :
    (bindInputs [amountInput] (.table [(.text "amount", .text hugeAmount)])
        = .ok [(.text "amount", .text hugeAmount)]
      ∧ unsignedWord "value" (.text hugeAmount)
        = .error (.coding (.outOfRange "value" (.text hugeAmount))))
    ∧ bindInputs [amountInput] (.table [(.text "amount", .text longAmount)])
        = .ok [(.text "amount", .text longAmount)]
      ∧ unsignedWord "value" (.text longAmount)
        = .error (.coding (.notInteger "value" (.text longAmount))) := by
  have hhuge : PassesForDecimal hugeAmount := by decide
  have hlist : longAmount.toList = List.replicate 4301 '0' := String.toList_ofList
  have hlong : IsDecimalText longAmount := by
    rw [IsDecimalText, hlist]
    exact ⟨by decide, fun c hc => by rw [List.eq_of_mem_replicate hc]; decide⟩
  refine ⟨⟨bindInputs_amount hhuge, ?_⟩, bindInputs_amount (.inl hlong), ?_⟩
  · have hamount : amountOf hugeAmount = 2 ^ 256 := by decide +kernel
    have hlength : (amountDigits hugeAmount).length ≤ Numeral.digitLimit := by decide
    rw [unsignedWord_eq, integer_of_passesForDecimal hhuge, if_pos hlength, hamount]
    rw [Except.bind, if_neg fun hbounds => absurd hbounds.2 (lt_irrefl _)]
    rfl
  have hlength : ¬ (amountDigits longAmount).length ≤ Numeral.digitLimit := by
    rw [amountDigits, Hex.dropFinalNewline_of_not_mem (newline_not_mem_of_isNumeral hlong), hlist,
      List.length_replicate]
    decide
  rw [unsignedWord_eq, integer_of_passesForDecimal (.inl hlong), if_neg hlength]
  rfl

end Workflow
