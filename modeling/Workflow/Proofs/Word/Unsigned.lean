import Mathlib.Algebra.Order.Field.Power
import Mathlib.Algebra.Order.Field.Rat
import Mathlib.Tactic.FieldSimp
import Workflow.Proofs.Decimal.Integers
import Workflow.Proofs.Word

/-!
# Unsigned words from values

An integer, a double without a fraction and the text of a numeral stand for an integer
(`Value.IsInteger`), and a value is read as an unsigned word exactly if it stands for one that fits
(`integer_eq_ok_iff`).  Everything else is refused, for one of three reasons (`WordRefusal`); an
integer that is too long for a message makes the refusal a fault.

So a number is read from itself, from its decimal digits and from its hexadecimal digits behind the
mark, whatever blanks stand around them (`WordOf`).  Other texts are read as well: those in which
something stands beside digits and mark (`unsignedWord_exact`).
-/

namespace Workflow

open Numeral

/-! ### Doubles without a fraction -/

namespace Decimal

theorem scaleByTwo_value (n : Nat) (e : Int) :
    0 < (scaleByTwo n e).2 ∧ (n : ℚ) * 2 ^ e = (scaleByTwo n e).1 / (scaleByTwo n e).2 := by
  by_cases h : 0 ≤ e
  · have he : e = (e.toNat : Int) := (Int.toNat_of_nonneg h).symm
    rw [scaleByTwo_of_nonneg n h]
    refine ⟨one_pos, ?_⟩
    rw [Nat.cast_one, div_one, he, zpow_natCast, Int.toNat_natCast]
    push_cast
    rfl
  · have he : e = -((-e).toNat : Int) := by omega
    rw [scaleByTwo_of_neg n (not_le.mp h)]
    refine ⟨Nat.two_pow_pos _, ?_⟩
    rw [he, zpow_neg, zpow_natCast, neg_neg, Int.toNat_natCast]
    push_cast
    rfl

theorem signed_mul (negative : Bool) (m n : Nat) :
    signed negative (m * n) = signed negative m * n := by
  cases negative with
  | false => exact Int.natCast_mul m n
  | true =>
    show -((m * n : Nat) : Int) = -(m : Int) * n
    push_cast
    ring

/-- A quotient is an integer exactly if nothing is left over. -/
theorem signed_eq_mul_iff {negative : Bool} {num den : Nat} {n : Int} (hpos : 0 < den) :
    signed negative num = n * den ↔ num % den = 0 ∧ signed negative (num / den) = n := by
  constructor
  · intro h
    have hdvd : den ∣ num := by
      have hint : (den : Int) ∣ signed negative num := Dvd.intro_left n h.symm
      cases negative with
      | false => exact Int.natCast_dvd_natCast.mp hint
      | true => exact Int.natCast_dvd_natCast.mp (Int.dvd_neg.mp hint)
    refine ⟨Nat.mod_eq_zero_of_dvd hdvd, ?_⟩
    rw [← Nat.div_mul_cancel hdvd, signed_mul] at h
    exact Int.eq_of_mul_eq_mul_right (by omega) h
  · rintro ⟨hmod, rfl⟩
    rw [← signed_mul, Nat.div_mul_cancel (Nat.dvd_of_mod_eq_zero hmod)]

theorem signed_mul_zpow_eq_iff {negative : Bool} {significand : Nat} {e n : Int} :
    (signed negative significand : ℚ) * 2 ^ e = n
      ↔ signed negative (scaleByTwo significand e).1 = n * (scaleByTwo significand e).2 := by
  obtain ⟨hpos, hvalue⟩ := scaleByTwo_value significand e
  have hden : ((scaleByTwo significand e).2 : ℚ) ≠ 0 := by exact_mod_cast hpos.ne'
  have hsigned : (signed negative significand : ℚ) * 2 ^ e
      = signed negative (scaleByTwo significand e).1 / (scaleByTwo significand e).2 := by
    cases negative with
    | false => exact_mod_cast hvalue
    | true =>
      simp only [signed, if_true, Int.cast_neg, Int.cast_natCast, neg_mul, neg_div]
      rw [hvalue]
  rw [hsigned, div_eq_iff hden]
  exact_mod_cast Iff.rfl

theorem toInt?_finite (negative : Bool) (significand : Nat) (exponent : Int) :
    (Binary.finite negative significand exponent).toInt? =
      if (scaleByTwo significand exponent).1 % (scaleByTwo significand exponent).2 = 0 then
        some (signed negative
          ((scaleByTwo significand exponent).1 / (scaleByTwo significand exponent).2))
      else none := rfl

/-- A double is an integer exactly if it is finite and its value is that integer. -/
theorem toInt?_eq_some_iff {b : Binary} {n : Int} :
    b.toInt? = some n ↔ ∃ negative significand exponent,
      b = .finite negative significand exponent
        ∧ (signed negative significand : ℚ) * 2 ^ exponent = n := by
  cases b with
  | nan => exact ⟨nofun, by rintro ⟨_, _, _, ⟨⟩, _⟩⟩
  | infinite negative => exact ⟨nofun, by rintro ⟨_, _, _, ⟨⟩, _⟩⟩
  | finite negative significand exponent =>
    have hpos := (scaleByTwo_value significand exponent).1
    have hparts : (Binary.finite negative significand exponent).toInt? = some n ↔
        signed negative (scaleByTwo significand exponent).1
          = n * (scaleByTwo significand exponent).2 := by
      rw [signed_eq_mul_iff hpos, toInt?_finite]
      split_ifs with hmod
      · rw [Option.some.injEq, and_iff_right hmod]
      · exact iff_of_false nofun fun h => hmod h.1
    rw [hparts, ← signed_mul_zpow_eq_iff]
    constructor
    · intro h
      exact ⟨_, _, _, rfl, h⟩
    · rintro ⟨_, _, _, heq, h⟩
      obtain ⟨rfl, rfl, rfl⟩ := Binary.finite.inj heq
      exact h

end Decimal

/-! ### Texts -/

namespace Numeral

theorem withoutMargins_trim (cs : List Char) :
    withoutMargins (Text.trim cs) = Text.trim cs := by
  obtain ⟨-, -, -, -, -, hnil | ⟨hstart, hend⟩⟩ := Text.exists_trim cs
  · rw [hnil]
    rfl
  · exact withoutMargins_of_solid hstart hend

/-- No letter that marks hexadecimal digits stands in a decimal numeral. -/
theorem IsDecimal.not_mem_of_isX {cs : List Char} {n : Int} (h : IsDecimal cs n) {x : Char}
    (hx : x = 'x' ∨ x = 'X') : x ∉ cs := by
  obtain ⟨hsign, hdigits, -, -, -⟩ := h
  rw [List.mem_append, not_or]
  constructor
  · cases hsign <;> rcases hx with rfl | rfl <;> decide
  · rcases hx with rfl | rfl
    · exact hdigits.not_mem (by decide) (by decide)
    · exact hdigits.not_mem (by decide) (by decide)

end Numeral

/-- A text is read as the integer whose decimal or hexadecimal numeral it is, less the blanks around
it. -/
theorem integerOfText?_eq_some_iff {s : String} {n : Int} :
    integerOfText? s = some n
      ↔ IsDecimal (Text.trim s.toList) n ∨ IsHexadecimal (Text.trim s.toList) n := by
  have htrim : (trimmed s).toList = Text.trim s.toList := String.toList_ofList
  have hdecimal : (readInt (trimmed s)).toOption = some n ↔ IsDecimal (Text.trim s.toList) n := by
    have hread := readInt_eq_ok_iff (s := trimmed s) (n := n)
    rw [htrim, withoutMargins_trim] at hread
    rw [← hread]
    cases readInt (trimmed s) with
    | error e => exact iff_of_false nofun nofun
    | ok m =>
      show some m = some n ↔ _
      rw [Option.some.injEq, Except.ok.injEq]
  have hhexadecimal : readHex (trimmed s).toList = some n
      ↔ IsHexadecimal (Text.trim s.toList) n := by
    rw [readHex_eq_some_iff, htrim]
  rw [integerOfText?]
  rw [htrim] at hhexadecimal ⊢
  generalize Text.trim s.toList = cs at hdecimal hhexadecimal ⊢
  -- The mark decides on the reader; there is none in a decimal numeral, and a hexadecimal one has
  -- it behind its sign.
  split_ifs with hmark
  · rw [hhexadecimal]
    refine (or_iff_right fun h => ?_).symm
    split at hmark
    · next rest =>
      obtain ⟨x, digits, hx, rfl⟩ := exists_eq_marked hmark
      exact h.not_mem_of_isX hx (by simp)
    · obtain ⟨x, digits, hx, rfl⟩ := exists_eq_marked hmark
      exact h.not_mem_of_isX hx (by simp)
  · rw [hdecimal]
    refine (or_iff_left fun h => hmark ?_).symm
    obtain ⟨hsign, hplus, hx, -, -⟩ := h
    cases hsign with
    | none => exact Hex.isMarked_cons_cons_iff.mpr ⟨rfl, hx⟩
    | plus => exact absurd rfl hplus
    | minus => exact Hex.isMarked_cons_cons_iff.mpr ⟨rfl, hx⟩

/-! ### Values -/

/-- Whether a value stands for an integer. -/
inductive Value.IsInteger : Value → Int → Prop where
  /-- An integer stands for itself. -/
  | int (n : Int) : IsInteger (.int n) n
  /-- A finite double without a fraction stands for its value. -/
  | float {x : Float} {negative : Bool} {significand : Nat} {exponent n : Int}
    (hx : Decimal.Binary.ofFloat x = .finite negative significand exponent)
    (hn : (signed negative significand : ℚ) * 2 ^ exponent = n) : IsInteger (.float x) n
  /-- A decimal numeral, with blanks around it. -/
  | decimal {s : String} {n : Int} (h : IsDecimal (Text.trim s.toList) n) : IsInteger (.text s) n
  /-- A hexadecimal numeral, with blanks around it. -/
  | hexadecimal {s : String} {n : Int} (h : IsHexadecimal (Text.trim s.toList) n) :
    IsInteger (.text s) n

theorem Value.isInteger_int_iff {m n : Int} : (Value.int m).IsInteger n ↔ m = n := by
  constructor
  · intro h
    cases h
    rfl
  · rintro rfl
    exact .int m

theorem Value.isInteger_float_iff {x : Float} {n : Int} :
    (Value.float x).IsInteger n ↔ (Decimal.Binary.ofFloat x).toInt? = some n := by
  rw [Decimal.toInt?_eq_some_iff]
  constructor
  · intro h
    cases h with
    | float hx hn => exact ⟨_, _, _, hx, hn⟩
  · rintro ⟨negative, significand, exponent, hx, hn⟩
    exact .float hx hn

theorem Value.isInteger_text_iff {s : String} {n : Int} :
    (Value.text s).IsInteger n ↔ integerOfText? s = some n := by
  rw [integerOfText?_eq_some_iff]
  constructor
  · intro h
    cases h with
    | decimal h => exact .inl h
    | hexadecimal h => exact .inr h
  · rintro (h | h)
    · exact .decimal h
    · exact .hexadecimal h

/-- A value is read as the integer that it stands for. -/
theorem integer_eq_ok_iff {label : String} {v : Value} {n : Int} :
    integer label v = .ok n ↔ v.IsInteger n := by
  cases v with
  | int m =>
    rw [integer, Except.ok.injEq, Value.isInteger_int_iff]
  | float x =>
    rw [integer, Value.isInteger_float_iff]
    cases (Decimal.Binary.ofFloat x).toInt? with
    | none => simp only [reduceCtorEq]
    | some m => rw [Except.ok.injEq, Option.some.injEq]
  | text s =>
    rw [integer, Value.isInteger_text_iff]
    cases integerOfText? s with
    | none => simp only [reduceCtorEq]
    | some m => rw [Except.ok.injEq, Option.some.injEq]
  | _ =>
    -- No other value is read, and none stands for an integer.
    constructor
    · intro h
      cases h
    · intro h
      cases h

/-- Why a value is refused as an unsigned word. -/
inductive WordRefusal (label : String) (v : Value) : CodingProblem → Prop where
  /-- It is a truth value. -/
  | truth {b : Bool} (h : v = .bool b) : WordRefusal label v (.truthForInteger label)
  /-- It stands for no integer. -/
  | notInteger (h : ∀ n, ¬ v.IsInteger n) : WordRefusal label v (.notInteger label v)
  /-- It stands for an integer that does not fit. -/
  | outOfRange {n : Int} (h : v.IsInteger n) (hn : n < 0 ∨ 2 ^ 256 ≤ n) :
    WordRefusal label v (.outOfRange label v)

theorem integer_eq_error {label : String} {v : Value} {e : Failure}
    (h : integer label v = .error e) :
    ∃ problem, WordRefusal label v problem ∧ e = .showing v (.coding problem) := by
  have hnone : ∀ n, ¬ v.IsInteger n := by
    intro n hn
    rw [integer_eq_ok_iff.mpr hn] at h
    cases h
  cases v with
  | bool b =>
    -- A truth value can always be shown, like a double and a text.
    exact ⟨_, .truth rfl, (Except.error.inj h).symm⟩
  | int n => cases h
  | float x =>
    rw [integer] at h
    split at h
    · cases h
    · exact ⟨_, .notInteger hnone, (Except.error.inj h).symm⟩
  | text s =>
    rw [integer] at h
    split at h
    · cases h
    · exact ⟨_, .notInteger hnone, (Except.error.inj h).symm⟩
  | _ => exact ⟨_, .notInteger hnone, (Except.error.inj h).symm⟩

theorem unsignedWord_eq_error {label : String} {v : Value} {e : Failure}
    (h : unsignedWord label v = .error e) :
    ∃ problem, WordRefusal label v problem ∧ e = .showing v (.coding problem) := by
  rw [unsignedWord_eq] at h
  rcases Outcome.bind_eq_error_iff.mp h with hread | ⟨n, hn, hrange⟩
  · exact integer_eq_error hread
  · split_ifs at hrange with hbounds
    refine ⟨_, .outOfRange (integer_eq_ok_iff.mp hn) ?_, (Except.error.inj hrange).symm⟩
    rw [Nat.pow_eq] at hbounds
    push_cast at hbounds
    omega

/-- A number that fits into a word can be written. -/
theorem Value.IsInteger.isWritable {v : Value} {n : Nat} (h : v.IsInteger n) (hn : n < 2 ^ 256) :
    v.isWritable = true := by
  cases h with
  | int =>
    rw [Value.isWritable, Int.natAbs_natCast, Nat.pow_eq]
    have hlimit : 256 ≤ digitLimit := by decide
    generalize digitLimit = limit at hlimit ⊢
    have hwide : 2 ^ 256 ≤ 10 ^ limit :=
      (Nat.pow_le_pow_left (by decide) 256).trans (Nat.pow_le_pow_right (by decide) hlimit)
    exact decide_eq_true (lt_of_lt_of_le hn hwide)
  | _ => rfl

/-- No value with an integer that is too long for a message is read. -/
theorem unsignedWord_of_not_isWritable {v : Value} (h : v.isWritable = false) (label : String) :
    unsignedWord label v = .error (.fault (.numeral .tooLongToWrite)) := by
  cases hword : unsignedWord label v with
  | ok n =>
    obtain ⟨hread, hn⟩ := unsignedWord_eq_ok_iff.mp hword
    rw [(integer_eq_ok_iff.mp hread).isWritable hn] at h
    cases h
  | error e =>
    obtain ⟨problem, -, rfl⟩ := unsignedWord_eq_error hword
    rw [Failure.showing_of_not_isWritable h]

/-! ### Numbers -/

/-- From what a number is read as an unsigned word: from itself, from its decimal digits and from
its hexadecimal digits, in either case, behind the mark; with any blanks around them. -/
structure WordOf (label : String) (n : Nat) : Prop where
  /-- It is read from itself. -/
  int : unsignedWord label (.int n) = .ok n
  /-- It is read from its decimal digits. -/
  decimal : ∀ before after, Text.Blanks before → Text.Blanks after →
    unsignedWord label (.text (String.ofList (before ++ (toString n).toList ++ after))) = .ok n
  /-- It is read from its hexadecimal digits. -/
  hexadecimal : ∀ before x digits after, Text.Blanks before → Text.Blanks after →
    x = 'x' ∨ x = 'X' → digits.map Char.toLower = Nat.toDigits 16 n →
    unsignedWord label (.text (String.ofList (before ++ '0' :: x :: digits ++ after))) = .ok n

/-- A plain numeral is read with any blanks around it. -/
theorem unsignedWord_of_isPlain {cs before after : List Char} {n : Nat} (h : IsPlain cs n)
    (hshort : cs.length ≤ digitLimit) (hn : n < 2 ^ 256) (hbefore : Text.Blanks before)
    (hafter : Text.Blanks after) (label : String) :
    unsignedWord label (.text (String.ofList (before ++ cs ++ after))) = .ok n := by
  obtain ⟨hstart, hend⟩ := h.solid
  have htrim : Text.trim (String.ofList (before ++ cs ++ after)).toList = cs := by
    rw [String.toList_ofList]
    exact Text.trim_padded hbefore hstart hend hafter
  refine unsignedWord_eq_ok_iff.mpr ⟨integer_eq_ok_iff.mpr ?_, hn⟩
  rcases h.isNumeral hshort with hdecimal | hhexadecimal
  · refine .decimal ?_
    rw [htrim]
    exact hdecimal
  · refine .hexadecimal ?_
    rw [htrim]
    exact hhexadecimal

/-- A word has few digits. -/
theorem length_toDigits_le {base n : Nat} (hbase : 1 < base) (hn : n < 2 ^ 256) :
    (Nat.toDigits base n).length ≤ 256 :=
  (Nat.length_toDigits_le_iff hbase (by decide)).mpr
    (lt_of_lt_of_le hn (Nat.pow_le_pow_left hbase 256))

theorem wordOf_of_lt {n : Nat} (hn : n < 2 ^ 256) (label : String) : WordOf label n where
  int := unsignedWord_of_lt hn label
  decimal before after hbefore hafter := by
    have hshort : (toString n).toList.length ≤ digitLimit := by
      rw [toList_toString]
      exact (length_toDigits_le (by decide) hn).trans (by decide)
    exact unsignedWord_of_isPlain (isPlain_toString n) hshort hn hbefore hafter label
  hexadecimal before x digits after hbefore hafter hx hdigits := by
    have hshort : ('0' :: x :: digits).length ≤ digitLimit := by
      have hlength := length_toDigits_le (by decide : 1 < 16) hn
      rw [← hdigits, List.length_map] at hlength
      rw [List.length_cons, List.length_cons, digitLimit]
      omega
    exact unsignedWord_of_isPlain (isPlain_marked hx hdigits) hshort hn hbefore hafter label

/-- **Unsigned words.**  A value is read as the number that it stands for, if this fits into a word;
everything else is refused for one of the reasons there are, and the refusal is a fault only if it
cannot show the value.  Of a text that is read nothing remains beside a plain numeral exactly if no
sign, no underscore and no character outside of ASCII stands between the blanks around it.  Every
number that fits is read from itself, and from its digits in either base with any blanks around. -/
theorem unsignedWord_exact (label : String) (v : Value) :
    (∀ n, unsignedWord label v = .ok n ↔ v.IsInteger n ∧ n < 2 ^ 256)
    ∧ (∀ e, unsignedWord label v = .error e →
      ∃ problem, WordRefusal label v problem ∧ e.IsRefusalOf v problem)
    ∧ (∀ s n, v = .text s → unsignedWord label v = .ok n →
      (IsPlain (Text.trim s.toList) n ↔ ∀ c ∈ Text.trim s.toList, IsPlainChar c))
    ∧ ∀ n, n < 2 ^ 256 → WordOf label n := by
  refine ⟨?_, ?_, ?_, fun n hn => wordOf_of_lt hn label⟩
  · intro n
    rw [unsignedWord_eq_ok_iff, integer_eq_ok_iff]
  · intro e he
    obtain ⟨problem, hproblem, rfl⟩ := unsignedWord_eq_error he
    exact ⟨problem, hproblem, Failure.isRefusalOf_showing v problem⟩
  · rintro s n rfl hread
    refine ⟨IsPlain.isPlainChar, fun hplain => ?_⟩
    have hnumeral : ∃ m : Nat, (n : Int) = m ∧ IsPlain (Text.trim s.toList) m := by
      cases integer_eq_ok_iff.mp (unsignedWord_eq_ok_iff.mp hread).1 with
      | decimal h => exact h.isPlain hplain
      | hexadecimal h => exact h.isPlain hplain
    obtain ⟨m, heq, hm⟩ := hnumeral
    rw [Int.natCast_inj.mp heq]
    exact hm

/-- A number with an underscore among its digits is read, and an integer that is too long for a
message breaks off what should refuse it. -/
theorem separated_thousand_read :
    unsignedWord "value" (.text "1_000") = .ok 1000 ∧ (∀ n, ¬ IsPlain "1_000".toList n)
      ∧ unsignedWord "value" Value.leastTooLong = .error (.fault (.numeral .tooLongToWrite)) := by
  have htext : integerOfText? "1_000" = some 1000 := by decide
  have hread : integer "value" (.text "1_000") = .ok (1000 : Nat) :=
    integer_eq_ok_iff.mpr (Value.isInteger_text_iff.mpr htext)
  refine ⟨unsignedWord_eq_ok_iff.mpr ⟨hread, by decide⟩, ?_, ?_⟩
  · intro n h
    exact absurd (h.isPlainChar '_' (by decide)) (by decide)
  · exact unsignedWord_of_not_isWritable Value.isWritable_leastTooLong "value"

end Workflow
