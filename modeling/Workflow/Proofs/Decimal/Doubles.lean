import Mathlib.Algebra.Order.Ring.Nat
import Mathlib.Tactic.Ring
import Workflow.Value.Mapping

/-!
# Integers as doubles

A double has a significand of 53 bits, so not every integer is one: `IsDouble n` says that `n` is a
significand scaled by a power of two and lies within the range.  The double next to such a number is
the number itself (`IsDouble.ofFloat_floatOfRatio`), and no double whatever has the value of any
other integer (`isDouble_of_exactNumber?`).

The first part is about bits: a double that is put together from bits with an exponent of its own
has these bits again (`toNat_toBits_ofBits`).
-/

namespace Workflow.Decimal

open Float.Model.UnpackedFloat Float.Model.Format

/-! ### Bits -/

section

variable (b : BitVec 64)

theorem toNat_unpackMantissa :
    (@unpackMantissa binary64 b).toNat = b.toNat % 2 ^ 52 := by
  simp [unpackMantissa, BitVec.extractLsb_toNat]

theorem toNat_unpackExponent :
    (@unpackExponent binary64 b).toNat = b.toNat / 2 ^ 52 % 2 ^ 11 := by
  simp [unpackExponent, BitVec.extractLsb_toNat, Nat.shiftRight_eq_div_pow]

theorem toNat_unpackSign : (@unpackSign binary64 b).toNat = b.toNat / 2 ^ 63 := by
  have hlt : b.toNat < 2 ^ 64 := b.isLt
  have hbit : (@unpackSign binary64 b).toNat = b.toNat / 2 ^ 63 % 2 := by
    show (BitVec.extractLsb 63 63 b).toNat = _
    rw [BitVec.extractLsb_toNat, Nat.shiftRight_eq_div_pow]
  omega

theorem toBitVec_ofBitVec (s : BitVec 1) : (Sign.ofBitVec s).toBitVec = s := by
  revert s
  decide

theorem packComponents_unpack :
    packComponents binary64 (.ofBitVec (@unpackSign binary64 b))
      (@unpackExponent binary64 b) (@unpackMantissa binary64 b) = b := by
  have hlt : b.toNat < 2 ^ 64 := b.isLt
  apply BitVec.eq_of_toNat_eq
  rw [packComponents, toBitVec_ofBitVec, BitVec.toNat_append, BitVec.toNat_append,
    toNat_unpackMantissa, toNat_unpackExponent, toNat_unpackSign]
  show ((b.toNat / 2 ^ 63) <<< 11 ||| b.toNat / 2 ^ 52 % 2 ^ 11) <<< 52 ||| b.toNat % 2 ^ 52
    = b.toNat
  rw [← Nat.shiftLeft_add_eq_or_of_lt (Nat.mod_lt _ (by decide)),
    ← Nat.shiftLeft_add_eq_or_of_lt (Nat.mod_lt _ (by decide)), Nat.shiftLeft_eq, Nat.shiftLeft_eq]
  omega

/-- The leading bit of a significand is not written. -/
theorem toNat_significand :
    (1#1 ++ @unpackMantissa binary64 b).toNat = 2 ^ 52 + b.toNat % 2 ^ 52 := by
  rw [BitVec.toNat_append, toNat_unpackMantissa,
    ← Nat.shiftLeft_add_eq_or_of_lt (Nat.mod_lt _ (by decide))]
  rfl

theorem log2_significand : (2 ^ 52 + b.toNat % 2 ^ 52).log2 = 52 := by
  rw [Nat.log2_eq_iff (by omega)]
  omega

end

/-- Bits with an exponent that is neither the least nor the greatest one are packed again as they
were unpacked. -/
theorem pack_unpack {b : BitVec 64} (hlow : 2 ^ 52 ≤ b.toNat) (hhigh : b.toNat < 2047 * 2 ^ 52) :
    pack binary64 (Float.Model.UnpackedFloat.unpack binary64 b) = b := by
  have hexponent := toNat_unpackExponent b
  have hsignificand := toNat_significand b
  -- Neither an infinity nor a number below the normal ones is unpacked.
  have hgreatest : @unpackExponent binary64 b ≠ -1#11 := by
    intro h
    have hones : (-1#11).toNat = 2047 := by decide
    rw [h, hones] at hexponent
    omega
  have hleast : @unpackExponent binary64 b ≠ 0#11 := by
    intro h
    have hzero : (0#11).toNat = 0 := by decide
    rw [h, hzero] at hexponent
    omega
  have hbias : exponentBias binary64 = 1023 := rfl
  unfold Float.Model.UnpackedFloat.unpack
  rw [if_neg hgreatest, if_neg hleast]
  unfold pack
  simp only [hsignificand, log2_significand, hexponent, hbias]
  have hwidth : 52 + 1 = mantissaBits binary64 := rfl
  rw [if_neg, if_pos hwidth]
  · conv_rhs => rw [← packComponents_unpack b]
    congr 1
    · apply BitVec.eq_of_toNat_eq
      rw [hexponent, BitVec.toNat_ofNat]
      simp
      omega
    · apply BitVec.eq_of_toNat_eq
      rw [toNat_unpackMantissa, BitVec.toNat_ofNat]
      simp
  · simp
    omega

theorem toNat_toBits_ofBits {bits : Nat} (hlow : 2 ^ 52 ≤ bits) (hhigh : bits < 2047 * 2 ^ 52) :
    (Float.ofBits (UInt64.ofNat bits)).toBits.toNat = bits := by
  have hbits : (UInt64.ofNat bits).toBitVec.toNat = bits := by
    simp
    omega
  show (pack binary64 (Float.Model.UnpackedFloat.unpack binary64
    (UInt64.ofNat bits).toBitVec)).toNat = bits
  rw [pack_unpack (by rw [hbits]; exact hlow) (by rw [hbits]; exact hhigh), hbits]

/-- The parts of a double that is not negative and has an exponent of its own. -/
theorem ofFloat_of_bits {x : Float} {biased fraction : Nat} (hbiased : 0 < biased ∧ biased < 2047)
    (hfraction : fraction < 2 ^ 52) (hbits : x.toBits.toNat = biased * 2 ^ 52 + fraction) :
    Binary.ofFloat x = .finite false (fraction + 2 ^ 52) (biased - 1075) := by
  have hsign : x.toBits.toNat / 2 ^ 63 = 0 := by omega
  have hexponent : x.toBits.toNat / 2 ^ 52 % 2048 = biased := by omega
  have hrest : x.toBits.toNat % 2 ^ 52 = fraction := by omega
  unfold Binary.ofFloat
  simp only [Nat.pow_eq, hsign, hexponent, hrest]
  rw [if_neg (by omega), if_neg (by omega)]
  rfl

/-- The significand of a finite double has at most 53 bits, and its exponent is bounded. -/
theorem lt_of_ofFloat {x : Float} {negative : Bool} {s : Nat} {e : Int}
    (h : Binary.ofFloat x = .finite negative s e) : s < 2 ^ 53 ∧ e ≤ 971 := by
  unfold Binary.ofFloat at h
  simp only [Nat.pow_eq] at h
  split_ifs at h
  · obtain ⟨-, rfl, rfl⟩ := Binary.finite.inj h
    omega
  · obtain ⟨-, rfl, rfl⟩ := Binary.finite.inj h
    omega

/-! ### Scaling and rounding -/

theorem scaleByTwo_of_nonneg (n : Nat) {e : Int} (h : 0 ≤ e) :
    scaleByTwo n e = (n * 2 ^ e.toNat, 1) := by
  rw [scaleByTwo, if_pos h, Nat.pow_eq]

theorem scaleByTwo_of_neg (n : Nat) {e : Int} (h : e < 0) :
    scaleByTwo n e = (n, 2 ^ (-e).toNat) := by
  rw [scaleByTwo, if_neg (by omega), Nat.pow_eq]

theorem roundDiv_of_dvd {num den : Nat} (hpos : 0 < den) (h : den ∣ num) :
    roundDiv num den = num / den := by
  have hrest : num % den = 0 := Nat.mod_eq_zero_of_dvd h
  simp only [roundDiv, hrest]
  rw [if_pos (by omega)]

/-- The exponent of an integer puts its leading bit in front of 52 others. -/
theorem binaryExponent_one {n : Nat} (hn : n ≠ 0) : binaryExponent n 1 = n.log2 - 52 := by
  have hlow : 2 ^ n.log2 ≤ n := Nat.log2_self_le hn
  have hone : Nat.log2 1 = 0 := by decide
  unfold binaryExponent
  simp only [hone, Nat.pow_eq, one_mul]
  have hguess : ¬ n * (scaleByTwo 1 ((n.log2 : Int) - (0 : Nat) - 53)).2
      < (scaleByTwo 1 ((n.log2 : Int) - (0 : Nat) - 53)).1 * 2 ^ 53 := by
    by_cases h : 53 ≤ n.log2
    · have hexponent : ((n.log2 : Int) - (0 : Nat) - 53).toNat = n.log2 - 53 := by omega
      rw [scaleByTwo_of_nonneg 1 (by omega), hexponent, one_mul, mul_one, pow_sub_mul_pow 2 h]
      exact not_lt.mpr hlow
    · have hexponent : (-((n.log2 : Int) - (0 : Nat) - 53)).toNat = 53 - n.log2 := by omega
      have hplaces : 2 ^ n.log2 * 2 ^ (53 - n.log2) = 2 ^ 53 := pow_mul_pow_sub 2 (by omega)
      rw [scaleByTwo_of_neg 1 (by omega), hexponent, one_mul, not_lt, ← hplaces]
      exact Nat.mul_le_mul_right _ hlow
  rw [if_neg hguess, leastExponent]
  omega

/-! ### Integers that are doubles -/

/-- Whether a number is the value of a double: a significand of 53 bits scaled by a power of two,
within the range. -/
def IsDouble (n : Nat) : Prop := n < 2 ^ 1024 ∧ ∃ m e, m < 2 ^ 53 ∧ n = m * 2 ^ e

theorem isDouble_of_lt {n : Nat} (h : n < 2 ^ 53) : IsDouble n := by
  refine ⟨lt_of_lt_of_le h (pow_le_pow_right₀ one_le_two (by decide)), n, 0, h, ?_⟩
  rw [pow_zero, mul_one]

theorem IsDouble.dvd {n : Nat} (h : IsDouble n) (hn : n ≠ 0) (hlarge : 52 ≤ n.log2) :
    2 ^ (n.log2 - 52) ∣ n := by
  obtain ⟨-, m, e, hm, rfl⟩ := h
  have hlt : 2 ^ (m * 2 ^ e).log2 < 2 ^ (53 + e) := by
    rw [pow_add]
    exact lt_of_le_of_lt (Nat.log2_self_le hn) (Nat.mul_lt_mul_of_pos_right hm (Nat.two_pow_pos e))
  have hplace : (m * 2 ^ e).log2 < 53 + e := (pow_lt_pow_iff_right₀ one_lt_two).mp hlt
  exact Dvd.dvd.mul_left (pow_dvd_pow 2 (by omega)) m

/-- A number has the significand `s`: this has its leading bit at the front, nothing is lost in
rounding to it, and scaled back it is the number. -/
structure HasSignificand (n s : Nat) : Prop where
  /-- The leading bit is at the front of 53 bits. -/
  low : 2 ^ 52 ≤ s
  /-- There are no more than 53 bits. -/
  high : s < 2 ^ 53
  /-- The number is rounded to the significand. -/
  rounded : roundDiv (n * (scaleByTwo 1 ((n.log2 : Int) - 52)).2)
    (scaleByTwo 1 ((n.log2 : Int) - 52)).1 = s
  /-- The significand stands for the number. -/
  value : (scaleByTwo s ((n.log2 : Int) - 52)).1 = n * (scaleByTwo s ((n.log2 : Int) - 52)).2

section

variable {n : Nat} (hn : n ≠ 0)

include hn

/-- A long number is divided; it is a double, so there is no rest. -/
theorem hasSignificand_of_long {s : Nat} (hlarge : 52 ≤ n.log2)
    (hs : n = 2 ^ (n.log2 - 52) * s) : HasSignificand n s := by
  have hpos : 0 < 2 ^ (n.log2 - 52) := Nat.two_pow_pos _
  have hexponent : ((n.log2 : Int) - 52).toNat = n.log2 - 52 := by omega
  have hplaces : 2 ^ (n.log2 - 52) * 2 ^ 52 = 2 ^ n.log2 := pow_sub_mul_pow 2 hlarge
  have hquotient : n / 2 ^ (n.log2 - 52) = s := Nat.div_eq_of_eq_mul_right hpos hs
  constructor
  case low =>
    rw [← hquotient, Nat.le_div_iff_mul_le hpos, mul_comm, hplaces]
    exact Nat.log2_self_le hn
  case high =>
    rw [← hquotient, Nat.div_lt_iff_lt_mul hpos, mul_comm, pow_succ, ← mul_assoc, hplaces,
      ← pow_succ]
    exact Nat.lt_log2_self
  case rounded =>
    rw [scaleByTwo_of_nonneg 1 (by omega), hexponent, one_mul, mul_one,
      roundDiv_of_dvd hpos ⟨s, hs⟩, hquotient]
  case value =>
    rw [scaleByTwo_of_nonneg s (by omega), hexponent, mul_one, mul_comm]
    exact hs.symm

/-- A short number is filled up with zeros. -/
theorem hasSignificand_of_short (hsmall : n.log2 < 52) :
    HasSignificand n (n * 2 ^ (52 - n.log2)) := by
  have hexponent : (-((n.log2 : Int) - 52)).toNat = 52 - n.log2 := by omega
  have hplaces : 2 ^ n.log2 * 2 ^ (52 - n.log2) = 2 ^ 52 := pow_mul_pow_sub 2 hsmall.le
  constructor
  case low =>
    rw [← hplaces]
    exact Nat.mul_le_mul_right _ (Nat.log2_self_le hn)
  case high =>
    calc n * 2 ^ (52 - n.log2) < 2 ^ (n.log2 + 1) * 2 ^ (52 - n.log2) :=
          Nat.mul_lt_mul_of_pos_right Nat.lt_log2_self (Nat.two_pow_pos _)
      _ = 2 ^ n.log2 * 2 ^ (52 - n.log2) * 2 := by ring
      _ = 2 ^ 52 * 2 := by rw [hplaces]
      _ = 2 ^ 53 := (pow_succ 2 52).symm
  case rounded =>
    rw [scaleByTwo_of_neg 1 (by omega), hexponent, roundDiv_of_dvd one_pos (one_dvd _), Nat.div_one]
  case value =>
    rw [scaleByTwo_of_neg _ (by omega), hexponent]

theorem IsDouble.exists_hasSignificand (h : IsDouble n) : ∃ s, HasSignificand n s := by
  by_cases hlarge : 52 ≤ n.log2
  · obtain ⟨s, hs⟩ := h.dvd hn hlarge
    exact ⟨s, hasSignificand_of_long hn hlarge hs⟩
  · exact ⟨_, hasSignificand_of_short hn (not_le.mp hlarge)⟩

end

/-- The double next to a number that is a double is the number. -/
theorem IsDouble.ofFloat_floatOfRatio {n : Nat} (h : IsDouble n) :
    ∃ s e, Binary.ofFloat (floatOfRatio false n 1) = .finite false s e
      ∧ (scaleByTwo s e).1 = n * (scaleByTwo s e).2 := by
  by_cases hn : n = 0
  · subst hn
    refine ⟨0, -1074, by decide, ?_⟩
    rw [scaleByTwo_of_neg 0 (by decide), Nat.zero_mul]
  obtain ⟨s, hlow, hhigh, hround, hvalue⟩ := IsDouble.exists_hasSignificand hn h
  have hplace : n.log2 < 1024 := by
    have hlt : 2 ^ n.log2 < 2 ^ 1024 := lt_of_le_of_lt (Nat.log2_self_le hn) h.1
    exact (pow_lt_pow_iff_right₀ one_lt_two).mp hlt
  -- The bits are the biased exponent and the significand without its leading one.
  have hbits : bitsOfRatio n 1 = (n.log2 + 1023) * 2 ^ 52 + (s - 2 ^ 52) := by
    have hbiased : ((n.log2 : Int) - 52 + 1075).toNat = n.log2 + 1023 := by omega
    rw [bitsOfRatio, if_neg hn, binaryExponent_one hn]
    simp only [Nat.pow_eq, one_mul]
    rw [hround, if_neg (by omega), hbiased]
    omega
  have hkeep : (floatOfRatio false n 1).toBits.toNat
      = (n.log2 + 1023) * 2 ^ 52 + (s - 2 ^ 52) := by
    rw [floatOfRatio, hbits, if_neg Bool.false_ne_true, Nat.add_zero]
    exact toNat_toBits_ofBits (by omega) (by omega)
  have hparts := ofFloat_of_bits (by omega) (by omega) hkeep
  have hexponent : ((n.log2 + 1023 : Nat) : Int) - 1075 = n.log2 - 52 := by omega
  rw [Nat.sub_add_cancel hlow, hexponent] at hparts
  exact ⟨s, _, hparts, hvalue⟩

theorem isDouble_of_scaleByTwo {s n : Nat} {e : Int} (hs : s < 2 ^ 53) (he : e ≤ 971)
    (h : (scaleByTwo s e).1 = n * (scaleByTwo s e).2) : IsDouble n := by
  by_cases hsign : 0 ≤ e
  · rw [scaleByTwo_of_nonneg s hsign, mul_one] at h
    refine ⟨?_, s, e.toNat, hs, h.symm⟩
    calc n = s * 2 ^ e.toNat := h.symm
      _ < 2 ^ 53 * 2 ^ e.toNat := Nat.mul_lt_mul_of_pos_right hs (Nat.two_pow_pos _)
      _ = 2 ^ (53 + e.toNat) := (pow_add 2 53 e.toNat).symm
      _ ≤ 2 ^ 1024 := pow_le_pow_right₀ one_le_two (by omega)
  · rw [scaleByTwo_of_neg s (not_le.mp hsign)] at h
    have hle : n ≤ s := by
      rw [show s = n * 2 ^ (-e).toNat from h]
      exact Nat.le_mul_of_pos_right n (Nat.two_pow_pos _)
    exact isDouble_of_lt (lt_of_le_of_lt hle hs)

end Decimal

/-! ### Doubles as values -/

open Decimal

theorem Decimal.IsDouble.exactNumber? {n : Nat} (h : IsDouble n) :
    ∃ num den, exactNumber? (.float (floatOfRatio false n 1)) = some (num, den)
      ∧ num = n * (den : Int) := by
  obtain ⟨s, e, hparts, hvalue⟩ := h.ofFloat_floatOfRatio
  refine ⟨((scaleByTwo s e).1 : Int), (scaleByTwo s e).2, ?_, by exact_mod_cast hvalue⟩
  unfold Workflow.exactNumber?
  simp only [hparts]
  rfl

/-- An integer that is the value of some double is a double. -/
theorem isDouble_of_exactNumber? {x : Float} {num : Int} {den n : Nat}
    (hx : exactNumber? (.float x) = some (num, den)) (hn : num = n * (den : Int)) :
    IsDouble n := by
  unfold exactNumber? at hx
  simp only at hx
  split at hx
  case h_2 => cases hx
  case h_1 negative s e hfinite =>
    obtain ⟨hs, he⟩ := lt_of_ofFloat hfinite
    obtain ⟨hnum, rfl⟩ := Prod.mk.inj (Option.some.inj hx)
    refine isDouble_of_scaleByTwo hs he ?_
    have hproduct : (n : Int) * ((scaleByTwo s e).2 : Int)
        = ((n * (scaleByTwo s e).2 : Nat) : Int) := (Nat.cast_mul _ _).symm
    -- A negative double can only have the value of zero.
    split_ifs at hnum with hnegative
    · omega
    · omega

/-- A double is the same key as an integer exactly if it has its value. -/
theorem isSameKey_float_int_iff {x : Float} {n : Nat} :
    isSameKey (.float x) (.int n) = true ↔ ∃ num den, exactNumber? (.float x) = some (num, den)
      ∧ num = n * (den : Int) := by
  have hint : exactNumber? (.int n) = some ((n : Int), 1) := rfl
  unfold isSameKey
  simp only [hint]
  cases hx : exactNumber? (.float x) with
  | none => simp
  | some pair =>
    obtain ⟨num, den⟩ := pair
    simp only [Nat.cast_one, mul_one, beq_iff_eq, Option.some.injEq, Prod.mk.injEq]
    constructor
    · intro h
      exact ⟨num, den, ⟨rfl, rfl⟩, h⟩
    · rintro ⟨_, _, ⟨rfl, rfl⟩, h⟩
      exact h

end Workflow
