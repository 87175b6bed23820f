import Workflow.Text.Case
import Workflow.Text.Hex
import Mathlib.Data.Char
import Mathlib.Tactic.IntervalCases

/-!
# Bytes and their digits

`decode_eq_ok_iff` is the law of hexadecimal reading: a text is read as some bytes exactly if it
consists of digit pairs and the digits of the bytes are those of the text in lower case.  So bytes
are read back from their own digits (`decode_encode`), and two texts with the same bytes differ at
most in case.

A digit of either case is one of twenty-two characters (`mem_alphabet`), so facts about single
digits are checked one by one.  On hexadecimal text lower case is what it is on ASCII, character by
character (`Text.lower_of_ascii`); and a text whose lower-case form is hexadecimal is in ASCII
itself, since no character outside of it becomes a digit or part of a mark
(`Text.ascii_of_lowerFrom`).
-/

namespace Workflow

/-! ### Lower case and ASCII -/

namespace Text

theorem lowerFrom_of_ascii (before cs : List Char) (h : ∀ c ∈ cs, c.toNat < 0x80) :
    lowerFrom before cs = cs.map Char.toLower := by
  induction cs generalizing before with
  | nil => rfl
  | cons c cs ih =>
    have hc : c.toNat < 0x80 := h c List.mem_cons_self
    have hsigma : (c == 'Σ') = false := by
      rw [beq_eq_false_iff_ne]
      rintro rfl
      exact absurd hc (by decide)
    have hrest := ih (c :: before) fun d hd => h d (List.mem_cons_of_mem c hd)
    rw [lowerFrom, hsigma, hrest, lowerChar, if_pos hc]
    rfl

theorem lower_of_ascii {s : String} (h : ∀ c ∈ s.toList, c.toNat < 0x80) :
    lower s = String.ofList (s.toList.map Char.toLower) := by
  rw [lower, lowerFrom_of_ascii [] s.toList h]

/-- What can be checked character by character holds of all ASCII characters. -/
theorem forall_ascii {P : Char → Prop} [DecidablePred P]
    (hall : ((List.range 0x80).all fun n => decide (P (Char.ofNat n))) = true) {c : Char}
    (h : c.toNat < 0x80) : P c := by
  have hn := of_decide_eq_true (List.all_eq_true.mp hall c.toNat (List.mem_range.mpr h))
  rwa [Char.ofNat_toNat] at hn

theorem toLower_toLower {c : Char} (h : c.toNat < 0x80) : c.toLower.toLower = c.toLower :=
  forall_ascii (P := fun c => c.toLower.toLower = c.toLower) (by decide) h

theorem toNat_toLower_lt {c : Char} (h : c.toNat < 0x80) : c.toLower.toNat < 0x80 :=
  forall_ascii (P := fun c => c.toLower.toNat < 0x80) (by decide) h

theorem lower_lower_of_ascii {s : String} (h : ∀ c ∈ s.toList, c.toNat < 0x80) :
    lower (lower s) = lower s := by
  have hlower : ∀ c ∈ (lower s).toList, c.toNat < 0x80 := by
    rw [lower_of_ascii h, String.toList_ofList, List.forall_mem_map]
    exact fun c hc => toNat_toLower_lt (h c hc)
  rw [lower_of_ascii hlower, lower_of_ascii h, String.toList_ofList, List.map_map]
  exact congrArg String.ofList (List.map_congr_left fun c hc => toLower_toLower (h c hc))

/-- No run leads into ASCII, apart from the Kelvin sign alone, which becomes the letter k; and none
leads out of the characters. -/
theorem lowerRuns_lead_outside : (lowerRuns.all fun r =>
    decide ((0x80 ≤ r.first + r.shift ∨ r.first = r.last ∧ r.first + r.shift = 0x6B)
      ∧ (r.last + r.shift < 0xD800 ∨ 0xDFFF < r.first + r.shift ∧ r.last + r.shift < 0x110000)))
    = true := by decide

/-- The lower-case form of a character outside ASCII has a character outside ASCII in it, or is
the letter k, which the Kelvin sign becomes. -/
theorem exists_mem_lowerChar {c : Char} (h : 0x80 ≤ c.toNat) :
    ∃ d ∈ lowerChar c, 0x80 ≤ d.toNat ∨ d = 'k' := by
  rw [lowerChar, if_neg (by omega), caseForm]
  cases hrun : lowerRuns.find? (·.contains c.toNat) with
  | some r =>
    refine ⟨_, List.mem_singleton_self _, ?_⟩
    have hr := of_decide_eq_true (List.all_eq_true.mp lowerRuns_lead_outside r
      (List.mem_of_find?_eq_some hrun))
    have hin := List.find?_some hrun
    simp only [CaseRun.contains, Bool.and_eq_true, decide_eq_true_eq] at hin
    have hvalid : (c.toNat + r.shift).toNat.isValidChar := by
      simp only [Nat.isValidChar]
      omega
    rcases hr.1 with hlow | ⟨hone, hk⟩
    · left
      have hform : (Char.ofNat (c.toNat + r.shift).toNat).toNat = (c.toNat + r.shift).toNat := by
        rw [Char.ofNat, dif_pos hvalid]
        rfl
      rw [hform]
      omega
    · right
      have hc : (c.toNat + r.shift).toNat = 0x6B := by omega
      rw [hc]
  | none =>
    cases hmany : lowerExpansions.lookup c.toNat with
    | none => exact ⟨c, List.mem_singleton_self c, .inl h⟩
    | some forms =>
      -- The one character with several lower-case forms is the capital I with a dot.
      have hforms : forms = [0x69, 0x307] := by
        obtain ⟨front, back, heq, -⟩ := List.lookup_eq_some_iff.mp hmany
        have hmem : (c.toNat, forms) ∈ lowerExpansions := by
          rw [heq]
          exact List.mem_append_right front List.mem_cons_self
        exact (Prod.mk.inj (List.mem_singleton.mp hmem)).2
      exact ⟨Char.ofNat 0x307, by simp [hforms], .inl (by decide)⟩

/-- A text is in ASCII if its lower-case form is and has no letter k. -/
theorem ascii_of_lowerFrom {before cs : List Char}
    (h : ∀ c ∈ lowerFrom before cs, c.toNat < 0x80 ∧ c ≠ 'k') : ∀ c ∈ cs, c.toNat < 0x80 := by
  induction cs generalizing before with
  | nil => exact fun c hc => absurd hc List.not_mem_nil
  | cons c cs ih =>
    rw [lowerFrom, List.forall_mem_append] at h
    refine List.forall_mem_cons.mpr ⟨?_, ih h.2⟩
    by_contra hc
    have hforms := h.1
    split_ifs at hforms with hsigma
    · have hsmall := (hforms _ (List.mem_singleton_self _)).1
      rw [lowerSigma] at hsmall
      split_ifs at hsmall
      · exact absurd hsmall (by decide)
      · exact absurd hsmall (by decide)
    · obtain ⟨d, hd, hout⟩ := exists_mem_lowerChar (Nat.not_lt.mp hc)
      obtain ⟨hlow, hk⟩ := hforms d hd
      rcases hout with hhigh | rfl
      · exact absurd hlow (Nat.not_lt.mpr hhigh)
      · exact hk rfl

end Text

namespace Hex

/-! ### Single digits -/

/-- The hexadecimal digits of both cases. -/
def alphabet : List Char := "0123456789abcdefABCDEF".toList

theorem mem_alphabet {c : Char} (h : isDigit c = true) : c ∈ alphabet := by
  have hr : (48 ≤ c.toNat ∧ c.toNat ≤ 57) ∨ (97 ≤ c.toNat ∧ c.toNat ≤ 102)
      ∨ (65 ≤ c.toNat ∧ c.toNat ≤ 70) := by
    unfold isDigit digitValue? at h
    simp only [Char.le_def, UInt32.le_iff_toNat_le] at h
    split_ifs at h with h0 h1 h2
    · exact .inl h0
    · exact .inr (.inl h1)
    · exact .inr (.inr h2)
    · cases h
  rw [show c = Char.ofNat c.toNat from (Char.ofNat_toNat c).symm]
  generalize c.toNat = n at hr
  rcases hr with ⟨h0, h1⟩ | ⟨h0, h1⟩ | ⟨h0, h1⟩ <;> interval_cases n <;> decide

theorem digitValue?_digit : ∀ n < 16, digitValue? (digit n) = some n := by decide

theorem toLower_digit : ∀ n < 16, (digit n).toLower = digit n := by decide

/-- What can be checked digit by digit holds of every digit. -/
theorem forall_isDigit {P : Char → Prop} [DecidablePred P]
    (hall : (alphabet.all fun c => decide (P c)) = true) {c : Char} (h : isDigit c = true) : P c :=
  of_decide_eq_true (List.all_eq_true.mp hall c (mem_alphabet h))

/-- A digit in lower case is the one that is written for its value. -/
theorem exists_toLower_eq_digit {c : Char} (h : isDigit c = true) :
    ∃ n < 16, digitValue? c = some n ∧ c.toLower = digit n :=
  forall_isDigit (P := fun c => ∃ n < 16, digitValue? c = some n ∧ c.toLower = digit n)
    (by decide) h

theorem toNat_lt_of_isDigit {c : Char} (h : isDigit c = true) : c.toNat < 0x80 :=
  forall_isDigit (P := fun c => c.toNat < 0x80) (by decide) h

theorem ne_of_isDigit {c d : Char} (h : isDigit c = true) (hd : isDigit d = false) : c ≠ d := by
  rintro rfl
  rw [h] at hd
  cases hd

theorem isDigit_digit {n : Nat} (h : n < 16) : isDigit (digit n) = true := by
  rw [isDigit, digitValue?_digit n h]
  rfl

theorem digit_inj {m n : Nat} (hm : m < 16) (hn : n < 16) (h : digit m = digit n) : m = n := by
  have hv : digitValue? (digit m) = digitValue? (digit n) := by rw [h]
  rw [digitValue?_digit m hm, digitValue?_digit n hn] at hv
  exact Option.some.inj hv

/-! ### Digit pairs -/

/-- Whether characters are digits, two for each byte. -/
def ArePairs (cs : List Char) : Prop := cs.length % 2 = 0 ∧ ∀ c ∈ cs, isDigit c = true

instance (cs : List Char) : Decidable (ArePairs cs) :=
  decidable_of_iff (cs.length % 2 = 0 ∧ cs.all isDigit = true)
    (and_congr_right fun _ => List.all_eq_true)

theorem arePairs_nil : ArePairs [] := ⟨rfl, fun _ h => absurd h List.not_mem_nil⟩

theorem arePairs_cons_cons {high low : Char} {cs : List Char} :
    ArePairs (high :: low :: cs) ↔ isDigit high = true ∧ isDigit low = true ∧ ArePairs cs := by
  simp only [ArePairs, List.length_cons, List.forall_mem_cons]
  have hlen : (cs.length + 1 + 1) % 2 = 0 ↔ cs.length % 2 = 0 := by omega
  tauto

theorem encode_cons (b : UInt8) (bs : List UInt8) :
    encode (b :: bs) = digit (b.toNat / 16) :: digit (b.toNat % 16) :: encode bs := rfl

theorem halves_lt (b : UInt8) : b.toNat / 16 < 16 ∧ b.toNat % 16 < 16 := by
  have hb := b.toNat_lt
  omega

theorem arePairs_encode (bs : List UInt8) : ArePairs (encode bs) := by
  induction bs with
  | nil => exact arePairs_nil
  | cons b bs ih =>
    obtain ⟨hhigh, hlow⟩ := halves_lt b
    rw [encode_cons, arePairs_cons_cons]
    exact ⟨isDigit_digit hhigh, isDigit_digit hlow, ih⟩

theorem length_encode (bs : List UInt8) : (encode bs).length = 2 * bs.length := by
  induction bs with
  | nil => rfl
  | cons b bs ih =>
    rw [encode_cons, List.length_cons, List.length_cons, List.length_cons, ih]
    omega

theorem map_toLower_encode (bs : List UInt8) : (encode bs).map Char.toLower = encode bs := by
  induction bs with
  | nil => rfl
  | cons b bs ih =>
    obtain ⟨hhigh, hlow⟩ := halves_lt b
    rw [encode_cons, List.map_cons, List.map_cons, ih, toLower_digit _ hhigh,
      toLower_digit _ hlow]

/-- A byte is determined by its two digits. -/
theorem eq_ofNat_of_digits {b : UInt8} {h l : Nat} (hh : h < 16) (hl : l < 16)
    (hhigh : digit (b.toNat / 16) = digit h) (hlow : digit (b.toNat % 16) = digit l) :
    b = UInt8.ofNat (16 * h + l) := by
  obtain ⟨hhigh16, hlow16⟩ := halves_lt b
  have h1 := digit_inj hhigh16 hh hhigh
  have h2 := digit_inj hlow16 hl hlow
  have hb : 16 * h + l = b.toNat := by omega
  rw [hb, UInt8.ofNat_toNat]

theorem digits_ofNat {h l : Nat} (hh : h < 16) (hl : l < 16) :
    byteDigits (UInt8.ofNat (16 * h + l)) = [digit h, digit l] := by
  have hb : (UInt8.ofNat (16 * h + l)).toNat = 16 * h + l := by
    rw [UInt8.toNat_ofNat', Nat.mod_eq_of_lt (by omega)]
  rw [byteDigits, hb, show (16 * h + l) / 16 = h by omega, show (16 * h + l) % 16 = l by omega]

theorem pairs_eq_ok_iff {cs : List Char} {bs : List UInt8} :
    pairs cs = .ok bs ↔ ArePairs cs ∧ encode bs = cs.map Char.toLower := by
  induction cs using pairs.induct generalizing bs with
  | case1 =>
    have hnil : encode bs = [] ↔ bs = [] := by
      rw [← List.length_eq_zero_iff, length_encode, ← List.length_eq_zero_iff]
      omega
    rw [pairs, List.map_nil, hnil, Except.ok.injEq]
    exact ⟨fun h => ⟨arePairs_nil, h.symm⟩, fun h => h.2.symm⟩
  | case2 c =>
    -- A digit is left over.
    have hodd : ¬ ArePairs [c] := fun h => Nat.one_ne_zero h.1
    simp only [pairs, hodd, reduceCtorEq, false_and]
  | case3 high low cs h l hlow hhigh ih =>
    -- The values of two digits are those of the digits in lower case.
    have hd : isDigit high = true ∧ isDigit low = true := by
      rw [isDigit, isDigit, hhigh, hlow]
      exact ⟨rfl, rfl⟩
    obtain ⟨h', hh16, hh, hhl⟩ := exists_toLower_eq_digit hd.1
    obtain ⟨l', hl16, hl, hll⟩ := exists_toLower_eq_digit hd.2
    obtain rfl : h' = h := Option.some.inj (hh.symm.trans hhigh)
    obtain rfl : l' = l := Option.some.inj (hl.symm.trans hlow)
    simp only [pairs, hhigh, hlow, List.map_cons, hhl, hll, arePairs_cons_cons, hd, true_and]
    constructor
    · intro hmap
      cases hrest : pairs cs with
      | error e => rw [hrest] at hmap; cases hmap
      | ok rest =>
        rw [hrest] at hmap
        obtain rfl := Except.ok.inj hmap
        obtain ⟨hpairs, henc⟩ := ih.mp hrest
        refine ⟨hpairs, ?_⟩
        rw [encode, List.flatMap_cons, digits_ofNat hh16 hl16, ← encode, henc]
        rfl
    · rintro ⟨hpairs, henc⟩
      cases bs with
      | nil => cases henc
      | cons b rest =>
        rw [encode_cons, List.cons.injEq, List.cons.injEq] at henc
        obtain ⟨hbh, hbl, hrest⟩ := henc
        rw [ih.mpr ⟨hpairs, hrest⟩, eq_ofNat_of_digits hh16 hl16 hbh hbl]
        rfl
  | case4 high low cs hnone =>
    -- One of the two is no digit.
    have hd : ¬ (isDigit high = true ∧ isDigit low = true) := by
      rintro ⟨hh, hl⟩
      obtain ⟨h, hh⟩ := Option.isSome_iff_exists.mp hh
      obtain ⟨l, hl⟩ := Option.isSome_iff_exists.mp hl
      exact hnone h l hh hl
    have hpairs : ¬ ArePairs (high :: low :: cs) := fun h =>
      hd ⟨(arePairs_cons_cons.mp h).1, (arePairs_cons_cons.mp h).2.1⟩
    simp only [hpairs, false_and, iff_false]
    rw [pairs]
    split
    · next h l hh hl => exact absurd hl (hnone h l hh)
    · exact nofun

/-- A text is read as some bytes exactly if it consists of digit pairs and is, in lower case, what
is written for those bytes. -/
theorem decode_eq_ok_iff {cs : List Char} {bs : List UInt8} :
    decode cs = .ok bs ↔ ArePairs cs ∧ encode bs = cs.map Char.toLower := by
  rw [decode]
  split
  · next hodd =>
    have hno : ¬ ArePairs cs := fun h => by rw [h.1] at hodd; cases hodd
    simp only [hno, false_and, reduceCtorEq]
  · exact pairs_eq_ok_iff

theorem decode_encode (bs : List UInt8) : decode (encode bs) = .ok bs :=
  decode_eq_ok_iff.mpr ⟨arePairs_encode bs, (map_toLower_encode bs).symm⟩

theorem exists_decode_eq_ok {cs : List Char} (h : ArePairs cs) : ∃ bs, decode cs = .ok bs := by
  have hall : ∀ cs, ArePairs cs → ∃ bs, pairs cs = .ok bs := by
    intro cs
    induction cs using pairs.induct with
    | case1 => exact fun _ => ⟨[], rfl⟩
    | case2 c => exact fun h => absurd h.1 Nat.one_ne_zero
    | case3 high low cs h l hlow hhigh ih =>
      intro hp
      obtain ⟨bs, hbs⟩ := ih (arePairs_cons_cons.mp hp).2.2
      refine ⟨UInt8.ofNat (16 * h + l) :: bs, ?_⟩
      rw [pairs, hhigh, hlow, hbs]
      rfl
    | case4 high low cs hnone =>
      intro hp
      obtain ⟨hh, hl, -⟩ := arePairs_cons_cons.mp hp
      obtain ⟨h, hh⟩ := Option.isSome_iff_exists.mp hh
      obtain ⟨l, hl⟩ := Option.isSome_iff_exists.mp hl
      exact absurd hl (hnone h l hh)
  obtain ⟨bs, hbs⟩ := hall cs h
  refine ⟨bs, ?_⟩
  rw [decode, if_neg (by rw [h.1]; decide), hbs]

/-- The number of bytes is half the number of digits. -/
theorem length_of_decode_eq_ok {cs : List Char} {bs : List UInt8} (h : decode cs = .ok bs) :
    2 * bs.length = cs.length := by
  have henc := (decode_eq_ok_iff.mp h).2
  rw [← length_encode, henc, List.length_map]

/-! ### Marked text -/

theorem toList_ofBytes (bs : List UInt8) : (ofBytes bs).toList = '0' :: 'x' :: encode bs :=
  String.toList_ofList

theorem toBytes_ofBytes (bs : List UInt8) : toBytes (ofBytes bs) = .ok bs := by
  rw [toBytes, toList_ofBytes]
  exact decode_encode bs

theorem ofBytes_inj {bs bs' : List UInt8} (h : ofBytes bs = ofBytes bs') : bs = bs' := by
  have hread := congrArg toBytes h
  rw [toBytes_ofBytes, toBytes_ofBytes] at hread
  exact Except.ok.inj hread

/-- Marked digits in lower case are the text of the bytes that they denote. -/
theorem lower_marked {cs : List Char} {bs : List UInt8} (h : decode cs = .ok bs) :
    Text.lower (String.ofList ('0' :: 'x' :: cs)) = ofBytes bs := by
  obtain ⟨⟨-, hdigits⟩, henc⟩ := decode_eq_ok_iff.mp h
  have hascii : ∀ c ∈ (String.ofList ('0' :: 'x' :: cs)).toList, c.toNat < 0x80 := by
    rw [String.toList_ofList]
    simp only [List.forall_mem_cons]
    exact ⟨by decide, by decide, fun c hc => toNat_lt_of_isDigit (hdigits c hc)⟩
  rw [Text.lower_of_ascii hascii, String.toList_ofList, List.map_cons, List.map_cons, ← henc]
  rfl

/-! ### Marks and lower case -/

theorem toLower_eq_zero_iff {c : Char} (h : c.toNat < 0x80) : c.toLower = '0' ↔ c = '0' :=
  Text.forall_ascii (P := fun c => c.toLower = '0' ↔ c = '0') (by decide) h

theorem toLower_isX {c : Char} (h : c.toNat < 0x80) :
    c.toLower = 'x' ∨ c.toLower = 'X' ↔ c = 'x' ∨ c = 'X' :=
  Text.forall_ascii (P := fun c => c.toLower = 'x' ∨ c.toLower = 'X' ↔ c = 'x' ∨ c = 'X')
    (by decide) h

theorem isDigit_toLower {c : Char} (h : c.toNat < 0x80) : isDigit c.toLower = isDigit c :=
  Text.forall_ascii (P := fun c => isDigit c.toLower = isDigit c) (by decide) h

theorem isMarked_cons_cons_iff {c x : Char} {cs : List Char} :
    isMarked (c :: x :: cs) = true ↔ c = '0' ∧ (x = 'x' ∨ x = 'X') := by
  constructor
  · intro h
    unfold isMarked at h
    split at h
    · next heq =>
      rw [Bool.or_eq_true, beq_iff_eq, beq_iff_eq] at h
      obtain ⟨rfl, hrest⟩ := List.cons.inj heq
      obtain ⟨rfl, -⟩ := List.cons.inj hrest
      exact ⟨rfl, h⟩
    · cases h
  · rintro ⟨rfl, rfl | rfl⟩
    · rfl
    · rfl

theorem isMarked_map_toLower {cs : List Char} (h : ∀ c ∈ cs, c.toNat < 0x80) :
    isMarked (cs.map Char.toLower) = isMarked cs := by
  match cs with
  | [] => rfl
  | [c] => simp [isMarked]
  | c :: x :: cs =>
    obtain ⟨hc, hrest⟩ := List.forall_mem_cons.mp h
    have hx := (List.forall_mem_cons.mp hrest).1
    rw [Bool.eq_iff_iff, List.map_cons, List.map_cons, isMarked_cons_cons_iff,
      isMarked_cons_cons_iff, toLower_eq_zero_iff hc, toLower_isX hx]

theorem unmarked_map_toLower {cs : List Char} (h : ∀ c ∈ cs, c.toNat < 0x80) :
    unmarked (cs.map Char.toLower) = (unmarked cs).map Char.toLower := by
  rw [unmarked, unmarked, isMarked_map_toLower h]
  split_ifs
  · rw [List.map_drop]
  · rfl

theorem arePairs_map_toLower {cs : List Char} (h : ∀ c ∈ cs, c.toNat < 0x80) :
    ArePairs (cs.map Char.toLower) ↔ ArePairs cs := by
  rw [ArePairs, ArePairs, List.length_map, List.forall_mem_map]
  refine and_congr_right fun _ => forall₂_congr fun c hc => ?_
  rw [isDigit_toLower (h c hc)]

/-- A character of a text is one of its digits or part of its mark. -/
theorem mem_unmarked_or {cs : List Char} {c : Char} (h : c ∈ cs) :
    c ∈ unmarked cs ∨ c = '0' ∨ c = 'x' ∨ c = 'X' := by
  rw [unmarked]
  split_ifs with hmark
  · match cs with
    | [] => cases hmark
    | [d] => simp [isMarked] at hmark
    | d :: x :: rest =>
      obtain ⟨rfl, hx⟩ := isMarked_cons_cons_iff.mp hmark
      simp only [List.mem_cons] at h
      rcases h with rfl | rfl | h
      · exact .inr (.inl rfl)
      · exact .inr (.inr hx)
      · exact .inl h
  · exact .inl h

/-! ### A final line break -/

/-- A text is what is left of it without a final line break, or that in front of one. -/
theorem eq_dropFinalNewline_or (cs : List Char) :
    cs = dropFinalNewline cs ∨ cs = dropFinalNewline cs ++ ['\n'] := by
  rw [dropFinalNewline]
  split_ifs with hlast
  · right
    obtain ⟨front, rfl⟩ := List.getLast?_eq_some_iff.mp hlast
    rw [List.dropLast_concat]
  · exact .inl rfl

theorem dropFinalNewline_append (cs : List Char) : dropFinalNewline (cs ++ ['\n']) = cs := by
  rw [dropFinalNewline, if_pos List.getLast?_concat, List.dropLast_concat]

theorem dropFinalNewline_of_not_mem {cs : List Char} (h : '\n' ∉ cs) :
    dropFinalNewline cs = cs := by
  rw [dropFinalNewline, if_neg]
  intro hlast
  exact h (List.mem_of_getLast? hlast)

theorem ArePairs.newline_not_mem {cs : List Char} (h : ArePairs cs) : '\n' ∉ cs :=
  fun hmem => ne_of_isDigit (h.2 _ hmem) (by decide) rfl

theorem isMarkedPairs_marked (cs : List Char) :
    isMarkedPairs ('0' :: 'x' :: cs) = true ↔ ArePairs (dropFinalNewline cs) := by
  have hdrop : dropFinalNewline ('0' :: 'x' :: cs) = '0' :: 'x' :: dropFinalNewline cs := by
    cases cs with
    | nil => rfl
    | cons c cs =>
      simp only [dropFinalNewline, List.getLast?_cons_cons, List.dropLast_cons_cons]
      split <;> rfl
  have hlen : ∀ n : Nat, (n + 1 + 1) % 2 = 0 ↔ n % 2 = 0 := by omega
  simp [isMarkedPairs, hdrop, isMarked, ArePairs, hlen]

end Hex

end Workflow
