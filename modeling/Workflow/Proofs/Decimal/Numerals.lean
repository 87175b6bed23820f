import Mathlib.Data.Bool.AllAny
import Workflow.Decimal.Numeral
import Workflow.Proofs.Decimal.Doubles
import Workflow.Proofs.Expression.Paths
import Workflow.Proofs.Outcomes
import Workflow.Proofs.Text.Blank

/-!
# What numerals denote

A sequence of digits of any script denotes the number with these digits, as an integer
(`readInt_of_isNumeral`) and as a floating-point number (`readFloat_of_isNumeral`), for which it
takes a look at the reader: a sign, an underscore or a blank would be something else.

Blanks around a numeral are ignored, but four of them are not (`IsSeparator`): with one of these in
it, a text is no floating-point number (`fails_readFloat_of_separator`), and without them it makes
no difference whether the blanks are cut off first (`readFloat_trimmed`).
-/

namespace Workflow

/-! ### Digits and other characters -/

/-- A digit stands in the run of some script. -/
theorem exists_mem_digitZeros {c : Char} (h : Text.isDigit c = true) :
    ∃ first ∈ Text.digitZeros, first ≤ c.toNat ∧ c.toNat < first + 10 := by
  rw [Text.isDigit, Text.digitValue?] at h
  split_ifs at h with hascii hdigit
  · have hlow : 0x30 ≤ c.toNat := hdigit.1
    have hhigh : c.toNat ≤ 0x39 := hdigit.2
    exact ⟨0x30, by decide, hlow, by omega⟩
  · cases h
  · rw [Option.isSome_map, List.find?_isSome] at h
    obtain ⟨first, hfirst, hrange⟩ := h
    rw [Bool.and_eq_true, decide_eq_true_iff, decide_eq_true_iff] at hrange
    exact ⟨first, hfirst, hrange⟩

/-- The runs of digits and those of blanks have no character in common. -/
theorem isBlank_of_isDigit {c : Char} (h : Text.isDigit c = true) : Text.isBlank c = false := by
  obtain ⟨first, hfirst, hlow, hhigh⟩ := exists_mem_digitZeros h
  have hapart : ∀ first ∈ Text.digitZeros, ∀ range ∈ Text.blankRanges,
      range.2 < first ∨ first + 9 < range.1 := by decide
  rw [Text.isBlank, Text.inRanges, List.any_eq_false]
  intro range hrange
  have hbounds := hapart first hfirst range hrange
  simp only [Bool.and_eq_true, decide_eq_true_iff]
  omega

namespace Numeral

open Decimal Outcome

/-! ### Reading digits -/

/-- The values of digits. -/
def digitValues (cs : List Char) : List Nat := cs.map fun c => (Text.digitValue? c).getD 0

theorem ofDigits_digitValues (cs : List Char) :
    ofDigits 10 (digitValues cs) = Text.digitsValue cs := by
  rw [ofDigits, digitValues, List.foldl_map]
  rfl

/-- Digits are read to the end. -/
theorem moreDigits_of_all {cs : List Char} (h : ∀ c ∈ cs, Text.isDigit c = true) :
    moreDigits Text.digitValue? cs = (digitValues cs, []) := by
  induction cs with
  | nil => rfl
  | cons c rest ih =>
    obtain ⟨hc, hrest⟩ := List.forall_mem_cons.mp h
    obtain ⟨d, hd⟩ := Option.isSome_iff_exists.mp hc
    have hunder : c ≠ '_' := by
      rintro rfl
      revert hc
      decide
    rw [moreDigits.eq_3 _ _ _ (by rintro _ _ rfl; exact fun _ => hunder rfl), hd]
    simp only [ih hrest, digitValues, List.map_cons, hd, Option.getD_some]

/-- A text that starts and ends with what is no blank has no margins. -/
theorem withoutMargins_of_solid {cs : List Char} (hstart : Text.StartsSolid cs)
    (hend : Text.EndsSolid cs) : withoutMargins cs = cs := by
  have hkeep : ∀ ds : List Char, Text.StartsSolid ds → ds.dropWhile isMargin = ds := by
    rintro ds ⟨c, rest, rfl, hc⟩
    refine List.dropWhile_cons_of_neg ?_
    rw [isMargin, hc, Bool.false_and]
    exact Bool.false_ne_true
  rw [withoutMargins, hkeep cs hstart, hkeep _ (Text.startsSolid_reverse hend),
    List.reverse_reverse]

section

variable {cs : List Char} (h : Path.IsNumeral cs)

include h

/-- Digits do not start with another character. -/
theorem head_isDigit_of_isNumeral : ∃ c rest, cs = c :: rest ∧ Text.isDigit c = true := by
  obtain ⟨c, rest, rfl⟩ := List.exists_cons_of_ne_nil h.1
  exact ⟨c, rest, rfl, h.2 c List.mem_cons_self⟩

theorem ne_cons_of_isNumeral {d : Char} (hd : Text.isDigit d = false) (more : List Char) :
    cs ≠ d :: more := by
  obtain ⟨c, rest, rfl, hc⟩ := head_isDigit_of_isNumeral h
  intro heq
  rw [(List.cons.inj heq).1, hd] at hc
  cases hc

theorem withoutMargins_of_isNumeral : withoutMargins cs = cs := by
  obtain ⟨hstart, hend⟩ := Text.solid_of_not_blank h.1 fun c hc => isBlank_of_isDigit (h.2 c hc)
  exact withoutMargins_of_solid hstart hend

theorem takeSign_of_isNumeral : takeSign cs = (false, cs) :=
  takeSign.eq_3 _ (fun _ => ne_cons_of_isNumeral h (by decide) _)
    (fun _ => ne_cons_of_isNumeral h (by decide) _)

theorem takeDigits_of_isNumeral : takeDigits Text.digitValue? cs = (digitValues cs, []) := by
  rw [← moreDigits_of_all h.2]
  exact takeDigits.eq_2 _ _ fun _ => ne_cons_of_isNumeral h (by decide) _

theorem digitValues_ne_nil : digitValues cs ≠ [] := by
  rw [digitValues, Ne, List.map_eq_nil_iff]
  exact h.1

end

/-- A sequence of digits is an integer unless it has too many of them. -/
theorem readInt_of_isNumeral {s : String} (h : Path.IsNumeral s.toList) :
    readInt s = if digitLimit < s.toList.length then .error (.tooManyDigits s.toList.length)
      else .ok (Text.digitsValue s.toList) := by
  have hlength : (digitValues s.toList).length = s.toList.length := List.length_map _
  have hsome : ((digitValues s.toList).isEmpty || ([] : List Char).head? == some '_') = false := by
    rw [List.isEmpty_eq_false_iff.mpr (digitValues_ne_nil h)]
    rfl
  rw [readInt, withoutMargins_of_isNumeral h, takeSign_of_isNumeral h]
  simp only [takeDigits_of_isNumeral h, hsome, hlength, List.isEmpty_nil, if_true,
    Bool.false_eq_true, if_false, ofDigits_digitValues]
  rfl

theorem exists_readInt_iff {s : String} (h : Path.IsNumeral s.toList) :
    (∃ n, readInt s = .ok n) ↔ s.toList.length ≤ digitLimit := by
  rw [readInt_of_isNumeral h]
  split_ifs with hlong
  · exact iff_of_false (by rintro ⟨_, ⟨⟩⟩) (Nat.not_le.mpr hlong)
  · exact iff_of_true ⟨_, rfl⟩ (Nat.not_lt.mp hlong)

/-! ### Words for numbers -/

/-- The letters of the words that name numbers. -/
def wordLetters : List Char := ['i', 'n', 'f', 't', 'y', 'a']

theorem namedNumber?_of_mem {cs : List Char} {c : Char} (hc : c ∈ cs)
    (hletter : c.toLower ∉ wordLetters) (negative : Bool) : namedNumber? negative cs = none := by
  have hne : ∀ word : String, word.toList.all (· ∈ wordLetters) = true →
      String.ofList (cs.map Char.toLower) ≠ word := by
    rintro word hword rfl
    refine hletter (List.all_iff_forall_prop.mp hword c.toLower ?_)
    rw [String.toList_ofList]
    exact List.mem_map_of_mem hc
  unfold namedNumber?
  simp only [hne "inf" (by decide), hne "infinity" (by decide), hne "nan" (by decide),
    decide_false, Bool.or_self, Bool.false_eq_true, if_false]

theorem toLower_of_isDigit {c : Char} (h : Text.isDigit c = true) : c.toLower = c := by
  have hupper : ¬ (c.val ≥ 'A'.val ∧ c.val ≤ 'Z'.val) := by
    rintro ⟨hlow, hhigh⟩
    have hletters : ∀ first ∈ Text.digitZeros, first + 10 ≤ 0x41 ∨ 0x5A < first := by decide
    obtain ⟨first, hfirst, hbounds⟩ := exists_mem_digitZeros h
    have hlow' : 0x41 ≤ c.toNat := hlow
    have hhigh' : c.toNat ≤ 0x5A := hhigh
    have hapart := hletters first hfirst
    omega
  exact dif_neg hupper

/-- A digit is no letter, so a sequence of digits is none of the words. -/
theorem namedNumber?_of_isNumeral {cs : List Char} (h : Path.IsNumeral cs) (negative : Bool) :
    namedNumber? negative cs = none := by
  obtain ⟨c, rest, rfl, hc⟩ := head_isDigit_of_isNumeral h
  refine namedNumber?_of_mem List.mem_cons_self ?_ negative
  rw [toLower_of_isDigit hc]
  intro hletter
  have hnone : ∀ d ∈ wordLetters, Text.isDigit d = false := List.all_iff_forall_prop.mp (by decide)
  rw [hnone c hletter] at hc
  cases hc

/-! ### Floating-point numbers -/

theorem readFloat_eq_ok_iff {s : String} {x : Float} :
    readFloat s = .ok x ↔ readUnsigned (takeSign (withoutMargins s.toList)).1
      (takeSign (withoutMargins s.toList)).2 = some x := by
  unfold readFloat
  simp only
  cases readUnsigned (takeSign (withoutMargins s.toList)).1
      (takeSign (withoutMargins s.toList)).2 with
  | none => exact ⟨nofun, nofun⟩
  | some y => simp only [Except.ok.injEq, Option.some.injEq]

/-- A sequence of digits is a floating-point number. -/
theorem readFloat_of_isNumeral {s : String} (h : Path.IsNumeral s.toList) :
    readFloat s = .ok (scaled false (digitValues s.toList) 0) := by
  rw [readFloat_eq_ok_iff, withoutMargins_of_isNumeral h, takeSign_of_isNumeral h]
  have hsome : (digitValues s.toList).isEmpty = false :=
    List.isEmpty_eq_false_iff.mpr (digitValues_ne_nil h)
  simp only [readUnsigned, namedNumber?_of_isNumeral h, takeDigits_of_isNumeral h, takeFraction,
    takeExponent, hsome, Bool.false_and, Bool.false_eq_true, if_false, List.append_nil,
    List.length_nil]
  rfl

theorem ofDigits_dropWhile (ds : List Nat) :
    ofDigits 10 (ds.dropWhile (· == 0)) = ofDigits 10 ds := by
  induction ds with
  | nil => rfl
  | cons d ds ih =>
    by_cases hd : d = 0
    · subst hd
      rw [List.dropWhile_cons_of_pos (by decide), ih]
      rfl
    · rw [List.dropWhile_cons_of_neg (by simpa using hd)]

theorem pow_le_ofDigits {d : Nat} (hd : d ≠ 0) (ds : List Nat) :
    10 ^ ds.length ≤ ofDigits 10 (d :: ds) := by
  have hfold : ∀ (more : List Nat) (k : Nat),
      k * 10 ^ more.length ≤ more.foldl (fun n d => 10 * n + d) k := by
    intro more
    induction more with
    | nil => simp
    | cons e more ih =>
      intro k
      calc k * 10 ^ (e :: more).length = 10 * k * 10 ^ more.length := by
            rw [List.length_cons, pow_succ]
            ring
        _ ≤ (10 * k + e) * 10 ^ more.length := Nat.mul_le_mul_right _ (Nat.le_add_right _ _)
        _ ≤ (e :: more).foldl (fun n d => 10 * n + d) k := ih (10 * k + e)
  calc 10 ^ ds.length ≤ d * 10 ^ ds.length := Nat.le_mul_of_pos_left _ (Nat.pos_of_ne_zero hd)
    _ = (10 * 0 + d) * 10 ^ ds.length := by rw [mul_zero, zero_add]
    _ ≤ ofDigits 10 (d :: ds) := hfold ds (10 * 0 + d)

/-- The number of a double is within the range, so it has few digits behind its leading zeros. -/
theorem length_le_of_isDouble {ds : List Nat} (h : IsDouble (ofDigits 10 ds)) :
    (ds.dropWhile (· == 0)).length ≤ 400 := by
  by_contra hlong
  have hrange : 2 ^ 1024 ≤ 10 ^ 400 := by
    calc 2 ^ 1024 ≤ 2 ^ (3 * 400) := pow_le_pow_right₀ one_le_two (by decide)
      _ = (2 ^ 3) ^ 400 := pow_mul 2 3 400
      _ ≤ 10 ^ 400 := pow_le_pow_left₀ (by decide) (by decide) 400
  have hstop := List.head?_dropWhile_not (· == 0) ds
  cases hsignificant : ds.dropWhile (· == 0) with
  | nil =>
    rw [hsignificant] at hlong
    exact hlong (Nat.zero_le _)
  | cons d rest =>
    have hd : d ≠ 0 := by simpa [hsignificant] using hstop
    have hlow := pow_le_ofDigits hd rest
    rw [hsignificant, List.length_cons] at hlong
    rw [← hsignificant, ofDigits_dropWhile] at hlow
    have hpow : 10 ^ 400 ≤ 10 ^ rest.length := pow_le_pow_right₀ (by decide) (by omega)
    exact absurd h.1 (not_lt.mpr (hrange.trans (hpow.trans hlow)))

/-- The double of digits. -/
theorem scaled_of_isDouble {ds : List Nat} (h : IsDouble (ofDigits 10 ds)) :
    scaled false ds 0 = floatOfRatio false (ofDigits 10 ds) 1 := by
  have hshort := length_le_of_isDouble h
  unfold scaled
  simp only [ofDigits_dropWhile]
  by_cases hzero : ofDigits 10 ds = 0
  · simp [hzero]
  · rw [if_neg, if_neg, if_pos (le_refl 0)]
    · show floatOfRatio false (ofDigits 10 ds * 1) 1 = _
      rw [mul_one]
    · omega
    · simp only [hzero, decide_false, Bool.false_or, decide_eq_true_iff]
      omega

/-- Digits denote the same number as an integer and as a floating-point number exactly if the number
is a double. -/
theorem isSameKey_scaled_iff (ds : List Nat) :
    isSameKey (.float (scaled false ds 0)) (.int (ofDigits 10 ds)) = true
      ↔ IsDouble (ofDigits 10 ds) := by
  rw [isSameKey_float_int_iff]
  constructor
  · rintro ⟨num, den, hx, hn⟩
    exact isDouble_of_exactNumber? hx hn
  · intro h
    rw [scaled_of_isDouble h]
    exact h.exactNumber?

/-! ### Separators -/

/-- Whether a character is one of the blanks that are not ignored around a numeral. -/
def IsSeparator (c : Char) : Prop := 0x1C ≤ c.toNat ∧ c.toNat ≤ 0x1F

instance (c : Char) : Decidable (IsSeparator c) := inferInstanceAs (Decidable (_ ∧ _))

theorem isMargin_iff {c : Char} : isMargin c = true ↔ Text.isBlank c = true ∧ ¬ IsSeparator c := by
  rw [isMargin, IsSeparator]
  simp only [Bool.and_eq_true, Bool.not_eq_true', ← Bool.not_eq_true, decide_eq_true_iff]

/-- What holds of the four separators holds of every separator. -/
theorem of_isSeparator {P : Char → Prop} [DecidablePred P] {c : Char} (h : IsSeparator c)
    (hall : [Char.ofNat 0x1C, Char.ofNat 0x1D, Char.ofNat 0x1E, Char.ofNat 0x1F].all (P ·) = true) :
    P c := by
  obtain ⟨hlow, hhigh⟩ := h
  have hvalue : c.toNat = 0x1C ∨ c.toNat = 0x1D ∨ c.toNat = 0x1E ∨ c.toNat = 0x1F := by omega
  refine List.all_iff_forall_prop.mp hall c ?_
  rw [← Char.ofNat_toNat c]
  rcases hvalue with h | h | h | h <;> simp [h]

theorem ne_of_isSeparator {c d : Char} (h : IsSeparator c) (hd : ¬ IsSeparator d) : c ≠ d := by
  rintro rfl
  exact hd h

section

variable {c : Char} {cs : List Char}

/-- What is no digit and no underscore is not passed over. -/
theorem mem_moreDigits_snd {value? : Char → Option Nat} (hc : value? c = none) (hunder : c ≠ '_')
    (h : c ∈ cs) : c ∈ (moreDigits value? cs).2 := by
  have hdigit : ∀ d v, value? d = some v → c ≠ d := by
    rintro d v hv rfl
    cases hc.symm.trans hv
  fun_induction moreDigits value? cs with
  | case1 => cases h
  | case2 d rest v hv ds r heq ih =>
    have hrest : c ∈ rest :=
      List.mem_of_ne_of_mem (hdigit d v hv) (List.mem_of_ne_of_mem hunder h)
    have hr : c ∈ (ds, r).2 := heq ▸ ih hrest
    exact hr
  | case3 d rest hv => exact h
  | case4 d rest _ v hv ds r heq ih =>
    have hr : c ∈ (ds, r).2 := heq ▸ ih (List.mem_of_ne_of_mem (hdigit d v hv) h)
    exact hr
  | case5 d rest _ hv => exact h

theorem mem_takeDigits_snd (hc : IsSeparator c) (h : c ∈ cs) :
    c ∈ (takeDigits Text.digitValue? cs).2 := by
  have hdigit : Text.digitValue? c = none :=
    of_isSeparator (P := fun d => Text.digitValue? d = none) hc (by decide)
  unfold takeDigits
  split
  · exact h
  · exact mem_moreDigits_snd hdigit (ne_of_isSeparator hc (by decide)) h

theorem mem_takeSign_snd (hc : IsSeparator c) (h : c ∈ cs) : c ∈ (takeSign cs).2 := by
  unfold takeSign
  split
  · exact List.mem_of_ne_of_mem (ne_of_isSeparator hc (by decide)) h
  · exact List.mem_of_ne_of_mem (ne_of_isSeparator hc (by decide)) h
  · exact h

theorem mem_takeFraction_snd (hc : IsSeparator c) (h : c ∈ cs) : c ∈ (takeFraction cs).2 := by
  unfold takeFraction
  split
  · exact mem_takeDigits_snd hc (List.mem_of_ne_of_mem (ne_of_isSeparator hc (by decide)) h)
  · exact h

theorem mem_of_takeExponent {e : Int} {rest : List Char} (hc : IsSeparator c) (h : c ∈ cs)
    (htake : takeExponent cs = some (e, rest)) : c ∈ rest := by
  cases cs with
  | nil => cases h
  | cons d more =>
    unfold takeExponent at htake
    simp only at htake
    split_ifs at htake with hmark
    · have hne : c ≠ d := by
        rintro rfl
        revert hmark
        exact of_isSeparator (P := fun c => ¬ (c == 'e' || c == 'E') = true) hc (by decide)
      have hmore := mem_takeDigits_snd hc (mem_takeSign_snd hc (List.mem_of_ne_of_mem hne h))
      rw [← (Prod.mk.inj (Option.some.inj htake)).2]
      exact hmore
    · rw [← (Prod.mk.inj (Option.some.inj htake)).2]
      exact h

/-- A separator is left over, whatever else is read. -/
theorem readUnsigned_of_separator (hc : IsSeparator c) (h : c ∈ cs) (negative : Bool) :
    readUnsigned negative cs = none := by
  have hletter : c.toLower ∉ wordLetters :=
    of_isSeparator (P := fun c => c.toLower ∉ wordLetters) hc (by decide)
  have hleft := mem_takeFraction_snd hc (mem_takeDigits_snd hc h)
  unfold readUnsigned
  simp only [namedNumber?_of_mem h hletter]
  split_ifs
  · rfl
  · split
    · next e heq => exact absurd (mem_of_takeExponent hc hleft heq) List.not_mem_nil
    · rfl

theorem mem_dropWhile {P : Char → Bool} (hc : P c = false) (h : c ∈ cs) : c ∈ cs.dropWhile P := by
  rw [← List.takeWhile_append_dropWhile (p := P) (l := cs), List.mem_append] at h
  refine h.resolve_left fun htake => ?_
  cases hc.symm.trans (List.mem_takeWhile_imp htake)

theorem mem_withoutMargins (hc : isMargin c = false) (h : c ∈ cs) : c ∈ withoutMargins cs := by
  have hstart := mem_dropWhile hc h
  exact List.mem_reverse.mpr (mem_dropWhile hc (List.mem_reverse.mpr hstart))

end

/-- A text with a separator in it is no floating-point number. -/
theorem fails_readFloat_of_separator {s : String} {c : Char} (hc : IsSeparator c)
    (h : c ∈ s.toList) : Fails (readFloat s) := by
  have hmargin : isMargin c = false :=
    of_isSeparator (P := fun d => isMargin d = false) hc (by decide)
  have hnone := readUnsigned_of_separator hc (mem_takeSign_snd hc (mem_withoutMargins hmargin h))
    (takeSign (withoutMargins s.toList)).1
  by_contra hok
  obtain ⟨x, hx⟩ := not_fails_iff.mp hok
  rw [readFloat_eq_ok_iff, hnone] at hx
  cases hx

theorem dropWhile_isMargin {cs : List Char} (h : ∀ c ∈ cs, ¬ IsSeparator c) :
    cs.dropWhile isMargin = cs.dropWhile Text.isBlank := by
  induction cs with
  | nil => rfl
  | cons c cs ih =>
    obtain ⟨hc, hcs⟩ := List.forall_mem_cons.mp h
    have hsame : isMargin c = Text.isBlank c := by
      rw [Bool.eq_iff_iff, isMargin_iff]
      exact and_iff_left hc
    rw [List.dropWhile_cons, List.dropWhile_cons, hsame, ih hcs]

/-- Without separators the margins are the blanks at both ends. -/
theorem withoutMargins_eq_trim {cs : List Char} (h : ∀ c ∈ cs, ¬ IsSeparator c) :
    withoutMargins cs = Text.trim cs := by
  have hstart : ∀ c ∈ (cs.dropWhile Text.isBlank).reverse, ¬ IsSeparator c := fun c hc =>
    h c ((List.dropWhile_sublist _).subset (List.mem_reverse.mp hc))
  rw [withoutMargins, dropWhile_isMargin h, dropWhile_isMargin hstart]
  rfl

theorem readFloat_trimmed {s : String} (h : ∀ c ∈ s.toList, ¬ IsSeparator c) {x : Float} :
    readFloat (trimmed s) = .ok x ↔ readFloat s = .ok x := by
  have hinner : ∀ c ∈ Text.trim s.toList, ¬ IsSeparator c := by
    obtain ⟨before, after, -, -, heq, -⟩ := Text.exists_trim s.toList
    intro c hc
    refine h c ?_
    rw [heq]
    exact List.mem_append_left _ (List.mem_append_right _ hc)
  rw [readFloat_eq_ok_iff, readFloat_eq_ok_iff, trimmed, String.toList_ofList,
    withoutMargins_eq_trim h, withoutMargins_eq_trim hinner, Text.trim_trim]

end Numeral

end Workflow
