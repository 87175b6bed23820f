import Workflow.Proofs.Decimal.Numerals
import Workflow.Proofs.Text.Hex

/-!
# Numerals of integers

The readers of integers take more than digits: a sign, a single underscore in front of any digit but
the first one of a decimal numeral, and digits of all scripts, also among hexadecimal digits.
`IsDecimal` and `IsHexadecimal` are these numerals as they are written, and the readers accept
exactly them (`readInt_eq_ok_iff`, `readHex_eq_some_iff`), since `moreDigits` comes to the end of a
text exactly if digits are spelled in it (`moreDigits_eq_iff`).

A plain numeral (`IsPlain`) has ASCII digits alone, and the mark `0x` if they are hexadecimal.
Among the numerals of an integer, the plain ones are those without a sign, an underscore and
characters outside of ASCII (`IsPlain.isPlainChar`, `IsDecimal.isPlain`, `IsHexadecimal.isPlain`).
-/

namespace Workflow.Numeral

/-! ### Digits with underscores -/

/-- Characters that spell digits of the given values: one character for each digit, with or without
an underscore in front of it. -/
inductive Spells (value? : Char → Option Nat) : List Char → List Nat → Prop where
  | nil : Spells value? [] []
  | digit {c : Char} {d : Nat} {cs : List Char} {ds : List Nat} (hc : value? c = some d)
    (h : Spells value? cs ds) : Spells value? (c :: cs) (d :: ds)
  | separated {c : Char} {d : Nat} {cs : List Char} {ds : List Nat} (hc : value? c = some d)
    (h : Spells value? cs ds) : Spells value? ('_' :: c :: cs) (d :: ds)

section

variable {value? : Char → Option Nat} {cs : List Char} {ds : List Nat}

theorem moreDigits_of_spells (hunder : value? '_' = none) (h : Spells value? cs ds) :
    moreDigits value? cs = (ds, []) := by
  induction h with
  | nil => rfl
  | digit hc h ih =>
    rename_i c d cs ds
    have hne : c ≠ '_' := by
      rintro rfl
      cases hunder.symm.trans hc
    rw [moreDigits.eq_3 _ _ _ (by rintro _ _ rfl; exact fun _ => hne rfl), hc, ih]
  | separated hc h ih => rw [moreDigits, hc, ih]

theorem spells_of_moreDigits (h : moreDigits value? cs = (ds, [])) : Spells value? cs ds := by
  fun_induction moreDigits value? cs generalizing ds with
  | case1 =>
    obtain ⟨rfl, -⟩ := Prod.mk.inj h
    exact .nil
  | case2 c rest d hc ds' r heq ih =>
    obtain ⟨rfl, rfl⟩ := Prod.mk.inj h
    exact .separated hc (ih heq)
  | case3 c rest hc => cases h
  | case4 c rest hnot d hc ds' r heq ih =>
    obtain ⟨rfl, rfl⟩ := Prod.mk.inj h
    exact .digit hc (ih heq)
  | case5 c rest hnot hc => cases h

/-- Digits are read to the end exactly if the text spells them. -/
theorem moreDigits_eq_iff (hunder : value? '_' = none) :
    moreDigits value? cs = (ds, []) ↔ Spells value? cs ds :=
  ⟨spells_of_moreDigits, moreDigits_of_spells hunder⟩

/-- The first digit has no underscore in front of it. -/
theorem takeDigits_eq_iff (hunder : value? '_' = none) :
    takeDigits value? cs = (ds, []) ↔ Spells value? cs ds ∧ cs.head? ≠ some '_' := by
  by_cases hfirst : ∃ rest, cs = '_' :: rest
  · obtain ⟨rest, rfl⟩ := hfirst
    refine iff_of_false ?_ fun h => h.2 rfl
    intro h
    cases (Prod.mk.inj h).2
  · have hhead : cs.head? ≠ some '_' := by
      intro hhead
      obtain ⟨rest, hrest⟩ := List.head?_eq_some_iff.mp hhead
      exact hfirst ⟨rest, hrest⟩
    rw [takeDigits.eq_2 _ _ fun rest hrest => hfirst ⟨rest, hrest⟩, moreDigits_eq_iff hunder]
    exact (and_iff_left hhead).symm

/-- Without underscores every character is a digit, and the values are those of the characters. -/
theorem Spells.of_not_mem (h : Spells value? cs ds) (hunder : '_' ∉ cs) :
    (∀ c ∈ cs, (value? c).isSome = true) ∧ ds = cs.map fun c => (value? c).getD 0 := by
  induction h with
  | nil => exact ⟨fun c hc => absurd hc List.not_mem_nil, rfl⟩
  | digit hc h ih =>
    rename_i c d cs ds
    obtain ⟨hall, rfl⟩ := ih fun hmem => hunder (List.mem_cons_of_mem c hmem)
    refine ⟨List.forall_mem_cons.mpr ⟨?_, hall⟩, ?_⟩
    · rw [hc]
      rfl
    · rw [List.map_cons, hc, Option.getD_some]
  | separated hc h ih => exact absurd List.mem_cons_self hunder

theorem spells_map (h : ∀ c ∈ cs, (value? c).isSome = true) :
    Spells value? cs (cs.map fun c => (value? c).getD 0) := by
  induction cs with
  | nil => exact .nil
  | cons c cs ih =>
    obtain ⟨hc, hcs⟩ := List.forall_mem_cons.mp h
    obtain ⟨d, hd⟩ := Option.isSome_iff_exists.mp hc
    rw [List.map_cons, hd]
    exact .digit hd (ih hcs)

/-- What is no digit and no underscore does not stand among digits. -/
theorem Spells.not_mem (h : Spells value? cs ds) {c : Char} (hc : value? c = none)
    (hunder : c ≠ '_') : c ∉ cs := by
  have hdigit : ∀ d v, value? d = some v → c ≠ d := by
    rintro d v hv rfl
    cases hc.symm.trans hv
  induction h with
  | nil => exact List.not_mem_nil
  | digit hd h ih => exact List.not_mem_cons_of_ne_of_not_mem (hdigit _ _ hd) ih
  | separated hd h ih =>
    refine List.not_mem_cons_of_ne_of_not_mem hunder ?_
    exact List.not_mem_cons_of_ne_of_not_mem (hdigit _ _ hd) ih

end

/-! ### Signs -/

/-- How the sign of a number is written. -/
inductive IsSign : List Char → Bool → Prop where
  | none : IsSign [] false
  | plus : IsSign ['+'] false
  | minus : IsSign ['-'] true

theorem exists_isSign_takeSign (cs : List Char) :
    ∃ sign, IsSign sign (takeSign cs).1 ∧ cs = sign ++ (takeSign cs).2 := by
  unfold takeSign
  split
  · exact ⟨['-'], .minus, rfl⟩
  · exact ⟨['+'], .plus, rfl⟩
  · exact ⟨[], .none, rfl⟩

theorem takeSign_append {sign body : List Char} {negative : Bool} (h : IsSign sign negative)
    (hplus : body.head? ≠ some '+') (hminus : body.head? ≠ some '-') :
    takeSign (sign ++ body) = (negative, body) := by
  cases h with
  | none =>
    refine takeSign.eq_3 body ?_ ?_
    · rintro rest rfl
      exact hminus rfl
    · rintro rest rfl
      exact hplus rfl
  | plus => rfl
  | minus => rfl

/-! ### Numerals -/

/-- A decimal numeral: an optional sign and digits of any script, possibly with single underscores
between them, and not more digits than can be read. -/
inductive IsDecimal : List Char → Int → Prop where
  | intro {sign digits : List Char} {negative : Bool} {ds : List Nat} (hsign : IsSign sign negative)
    (hdigits : Spells Text.digitValue? digits ds) (hfirst : digits.head? ≠ some '_')
    (hsome : ds ≠ []) (hshort : ds.length ≤ digitLimit) :
    IsDecimal (sign ++ digits) (signed negative (ofDigits 10 ds))

/-- A hexadecimal numeral: an optional minus, the mark and digits, possibly with an underscore in
front of any of them. -/
inductive IsHexadecimal : List Char → Int → Prop where
  | intro {sign digits : List Char} {x : Char} {negative : Bool} {ds : List Nat}
    (hsign : IsSign sign negative) (hplus : sign ≠ ['+']) (hx : x = 'x' ∨ x = 'X')
    (hdigits : Spells hexValue? digits ds) (hsome : ds ≠ []) :
    IsHexadecimal (sign ++ '0' :: x :: digits) (signed negative (ofDigits 16 ds))

/-- Digits do not start with a sign. -/
theorem Spells.head?_ne {digits : List Char} {ds : List Nat}
    (h : Spells Text.digitValue? digits ds) {c : Char} (hc : Text.digitValue? c = none)
    (hunder : c ≠ '_') : digits.head? ≠ some c := fun hhead =>
  h.not_mem hc hunder (List.mem_of_head? hhead)

theorem readInt_eq_ok_iff_take {s : String} {n : Int} :
    readInt s = .ok n ↔ ∃ ds,
      takeDigits Text.digitValue? (takeSign (withoutMargins s.toList)).2 = (ds, [])
        ∧ ds ≠ [] ∧ ds.length ≤ digitLimit
        ∧ n = signed (takeSign (withoutMargins s.toList)).1 (ofDigits 10 ds) := by
  rw [readInt]
  rcases takeSign (withoutMargins s.toList) with ⟨negative, body⟩
  rcases htake : takeDigits Text.digitValue? body with ⟨ds, rest⟩
  simp only [htake]
  constructor
  · intro h
    split_ifs at h with hbad hlong hrest
    obtain rfl : rest = [] := List.isEmpty_iff.mp hrest
    refine ⟨ds, rfl, ?_, Nat.not_lt.mp hlong, (Except.ok.inj h).symm⟩
    rintro rfl
    exact hbad rfl
  · rintro ⟨ds', heq, hsome, hshort, rfl⟩
    obtain ⟨rfl, rfl⟩ := Prod.mk.inj heq
    have hgood : (ds.isEmpty || ([] : List Char).head? == some '_') = false := by
      rw [List.isEmpty_eq_false_iff.mpr hsome]
      rfl
    rw [hgood, if_neg Bool.false_ne_true, if_neg (Nat.not_lt.mpr hshort)]
    rfl

/-- What is read as an integer is a decimal numeral, with margins around it. -/
theorem readInt_eq_ok_iff {s : String} {n : Int} :
    readInt s = .ok n ↔ IsDecimal (withoutMargins s.toList) n := by
  rw [readInt_eq_ok_iff_take]
  have hunder : Text.digitValue? '_' = none := by decide
  generalize withoutMargins s.toList = cs
  constructor
  · rintro ⟨ds, htake, hsome, hshort, rfl⟩
    obtain ⟨sign, hsign, hcs⟩ := exists_isSign_takeSign cs
    obtain ⟨hdigits, hfirst⟩ := (takeDigits_eq_iff hunder).mp htake
    have hnumeral := IsDecimal.intro hsign hdigits hfirst hsome hshort
    rw [← hcs] at hnumeral
    exact hnumeral
  · rintro ⟨hsign, hdigits, hfirst, hsome, hshort⟩
    have hplus := hdigits.head?_ne (c := '+') (by decide) (by decide)
    have hminus := hdigits.head?_ne (c := '-') (by decide) (by decide)
    rw [takeSign_append hsign hplus hminus]
    exact ⟨_, (takeDigits_eq_iff hunder).mpr ⟨hdigits, hfirst⟩, hsome, hshort, rfl⟩

/-! ### Hexadecimal numerals -/

/-- The first digit may have an underscore in front of it if that is passed over. -/
theorem takeDigits_tail_eq_iff {value? : Char → Option Nat} {cs : List Char} {ds : List Nat}
    (hunder : value? '_' = none) (hsome : ds ≠ []) :
    takeDigits value? cs = (ds, []) ↔ Spells value? ('_' :: cs) ds := by
  rw [takeDigits_eq_iff hunder]
  constructor
  · rintro ⟨hdigits, hfirst⟩
    cases hdigits with
    | nil => exact absurd rfl hsome
    | digit hc h => exact .separated hc h
    | separated hc h => exact absurd rfl hfirst
  · intro hspells
    cases hspells with
    | digit hc h => cases hunder.symm.trans hc
    | separated hc h =>
      refine ⟨.digit hc h, ?_⟩
      intro hhead
      rw [Option.some.inj hhead, hunder] at hc
      cases hc

theorem hexValue?_underscore : hexValue? '_' = none := by decide

/-- The integer whose digits a text is. -/
def readHexDigits (negative : Bool) (cs : List Char) : Option Int :=
  let (ds, rest) := takeDigits hexValue? cs
  if !ds.isEmpty && rest.isEmpty then some (signed negative (ofDigits 16 ds)) else none

theorem readHexDigits_eq_some_iff {negative : Bool} {cs : List Char} {n : Int} :
    readHexDigits negative cs = some n ↔ ∃ ds,
      takeDigits hexValue? cs = (ds, []) ∧ ds ≠ [] ∧ n = signed negative (ofDigits 16 ds) := by
  rw [readHexDigits]
  rcases takeDigits hexValue? cs with ⟨ds, rest⟩
  simp only
  constructor
  · intro h
    split_ifs at h with hgood
    rw [Bool.and_eq_true, Bool.not_eq_true', List.isEmpty_eq_false_iff, List.isEmpty_iff] at hgood
    obtain ⟨hsome, rfl⟩ := hgood
    exact ⟨ds, rfl, hsome, (Option.some.inj h).symm⟩
  · rintro ⟨ds', heq, hsome, rfl⟩
    obtain ⟨rfl, rfl⟩ := Prod.mk.inj heq
    rw [List.isEmpty_eq_false_iff.mpr hsome]
    rfl

/-- Behind the mark an underscore is passed over if it is there, and digits are read to the end. -/
theorem readHex_marked {sign digits : List Char} {x : Char} {negative : Bool}
    (hsign : IsSign sign negative) (hplus : sign ≠ ['+']) (hx : x = 'x' ∨ x = 'X') {n : Int} :
    readHex (sign ++ '0' :: x :: digits) = some n ↔ ∃ ds,
      Spells hexValue? digits ds ∧ ds ≠ [] ∧ n = signed negative (ofDigits 16 ds) := by
  have hmark : Hex.isMarked ('0' :: x :: digits) = true := Hex.isMarked_cons_cons_iff.mpr ⟨rfl, hx⟩
  unfold readHex
  split
  next minus body heq =>
  have hbody : (negative, '0' :: x :: digits) = (minus, body) := by
    cases hsign with
    | none => exact heq
    | plus => exact absurd rfl hplus
    | minus => exact heq
  obtain ⟨rfl, rfl⟩ := Prod.mk.inj hbody
  rw [if_pos hmark, List.drop_succ_cons, List.drop_succ_cons, List.drop_zero]
  split
  · next rest =>
    show readHexDigits negative rest = some n ↔ _
    rw [readHexDigits_eq_some_iff]
    refine exists_congr fun ds => ?_
    rw [and_congr_left fun h => takeDigits_tail_eq_iff hexValue?_underscore h.1]
  · next hnot =>
    have hfirst : digits.head? ≠ some '_' := by
      intro hhead
      obtain ⟨rest, hrest⟩ := List.head?_eq_some_iff.mp hhead
      exact hnot rest hrest
    show readHexDigits negative digits = some n ↔ _
    rw [readHexDigits_eq_some_iff]
    refine exists_congr fun ds => ?_
    rw [takeDigits_eq_iff hexValue?_underscore, and_iff_left hfirst]

theorem exists_eq_marked {cs : List Char} (h : Hex.isMarked cs = true) :
    ∃ x digits, (x = 'x' ∨ x = 'X') ∧ cs = '0' :: x :: digits := by
  match cs with
  | [] => cases h
  | [c] => simp [Hex.isMarked] at h
  | c :: x :: digits =>
    obtain ⟨rfl, hx⟩ := Hex.isMarked_cons_cons_iff.mp h
    exact ⟨x, digits, hx, rfl⟩

/-- What is read as a hexadecimal integer is a hexadecimal numeral. -/
theorem readHex_eq_some_iff {cs : List Char} {n : Int} :
    readHex cs = some n ↔ IsHexadecimal cs n := by
  constructor
  · intro h
    -- A text without the mark, behind its minus if it has one, is not read.
    have hmark : ∃ sign negative body, IsSign sign negative ∧ sign ≠ ['+']
        ∧ Hex.isMarked body = true ∧ cs = sign ++ body := by
      unfold readHex at h
      split at h
      next negative body heq =>
      split_ifs at h with hmark
      split at heq
      · next rest =>
        obtain ⟨-, rfl⟩ := Prod.mk.inj heq
        exact ⟨['-'], true, rest, .minus, by decide, hmark, rfl⟩
      · obtain ⟨-, rfl⟩ := Prod.mk.inj heq
        exact ⟨[], false, cs, .none, by decide, hmark, rfl⟩
    obtain ⟨sign, negative, body, hsign, hplus, hmark, rfl⟩ := hmark
    obtain ⟨x, digits, hx, rfl⟩ := exists_eq_marked hmark
    obtain ⟨ds, hdigits, hsome, rfl⟩ := (readHex_marked hsign hplus hx).mp h
    exact .intro hsign hplus hx hdigits hsome
  · rintro ⟨hsign, hplus, hx, hdigits, hsome⟩
    exact (readHex_marked hsign hplus hx).mpr ⟨_, hdigits, hsome, rfl⟩

/-! ### Plain numerals -/

/-- The number that ASCII digits denote in a base. -/
def plainValue (base : Nat) (cs : List Char) : Nat :=
  ofDigits base (cs.map fun c => (Hex.digitValue? c).getD 0)

/-- A plain numeral: decimal digits, or the mark `0x` and hexadecimal digits, and nothing else. -/
inductive IsPlain : List Char → Nat → Prop where
  | decimal {cs : List Char} (hne : cs ≠ []) (hdigits : ∀ c ∈ cs, c.isDigit = true) :
    IsPlain cs (plainValue 10 cs)
  | hexadecimal {x : Char} {digits : List Char} (hx : x = 'x' ∨ x = 'X') (hne : digits ≠ [])
    (hdigits : ∀ c ∈ digits, Hex.isDigit c = true) :
    IsPlain ('0' :: x :: digits) (plainValue 16 digits)

/-- A character that may stand in a plain numeral as far as it is no sign, no underscore and of
ASCII. -/
def IsPlainChar (c : Char) : Prop := c.toNat < 0x80 ∧ c ∉ ['+', '-', '_']

instance (c : Char) : Decidable (IsPlainChar c) := inferInstanceAs (Decidable (_ ∧ _))

theorem isDigit_of_ascii {c : Char} (h : c.toNat < 0x80) :
    Text.isDigit c = true ↔ c.isDigit = true :=
  Text.forall_ascii (P := fun c => Text.isDigit c = true ↔ c.isDigit = true) (by decide) h

theorem isPlainChar_of_isDigit {c : Char} (h : Hex.isDigit c = true) : IsPlainChar c :=
  Hex.forall_isDigit (P := IsPlainChar) (by decide) h

/-- The two readers of digits agree on decimal digits of ASCII. -/
theorem values_of_isDigit {c : Char} (h : c.isDigit = true) :
    Hex.isDigit c = true ∧ Text.digitValue? c = Hex.digitValue? c := by
  have hascii : c.toNat < 0x80 := by
    simp only [Char.isDigit, Bool.and_eq_true, decide_eq_true_eq] at h
    have hhigh : c.toNat ≤ 0x39 := h.2
    omega
  exact Text.forall_ascii
    (P := fun c => c.isDigit = true → Hex.isDigit c = true ∧ Text.digitValue? c = Hex.digitValue? c)
    (by decide) hascii h

theorem hexValue?_of_ascii {c : Char} (h : c.toNat < 0x80) : hexValue? c = Hex.digitValue? c :=
  Text.forall_ascii (P := fun c => hexValue? c = Hex.digitValue? c) (by decide) h

theorem digitValue?_toLower (c : Char) : Hex.digitValue? c.toLower = Hex.digitValue? c := by
  by_cases hascii : c.toNat < 0x80
  · exact Text.forall_ascii (P := fun c => Hex.digitValue? c.toLower = Hex.digitValue? c)
      (by decide) hascii
  · -- Outside of ASCII there are no letters with another case.
    have hsame : c.toLower = c := by
      refine dif_neg ?_
      rintro ⟨-, hhigh⟩
      have hle : c.toNat ≤ 0x5A := hhigh
      omega
    rw [hsame]

theorem plainValue_map_toLower (base : Nat) (cs : List Char) :
    plainValue base (cs.map Char.toLower) = plainValue base cs := by
  have hsame : (fun c => (Hex.digitValue? c).getD 0) ∘ Char.toLower
      = fun c => (Hex.digitValue? c).getD 0 := by
    funext c
    rw [Function.comp_apply, digitValue?_toLower]
  rw [plainValue, plainValue, List.map_map, hsame]

theorem plainValue_concat (base : Nat) (cs : List Char) (c : Char) :
    plainValue base (cs ++ [c]) = base * plainValue base cs + (Hex.digitValue? c).getD 0 := by
  simp [plainValue, ofDigits]

/-- The digits of a number denote it. -/
theorem plainValue_toDigits {base : Nat} (hlow : 1 < base) (hhigh : base ≤ 16) (n : Nat) :
    plainValue base (Nat.toDigits base n) = n ∧
      ∀ c ∈ Nat.toDigits base n, Hex.isDigit c = true := by
  have hdigit : ∀ d < 16, Hex.digitValue? (Nat.digitChar d) = some d := by decide
  induction n using Nat.strong_induction_on with
  | _ n ih =>
    rcases Nat.lt_or_ge n base with hsmall | hlarge
    · have hvalue := hdigit n (by omega)
      rw [Nat.toDigits_of_lt_base hsmall]
      refine ⟨?_, List.forall_mem_singleton.mpr ?_⟩
      · simp [plainValue, ofDigits, hvalue]
      · rw [Hex.isDigit, hvalue]
        rfl
    · have hvalue := hdigit (n % base) (lt_of_lt_of_le (Nat.mod_lt n (by omega)) hhigh)
      obtain ⟨hfront, hall⟩ := ih (n / base) (Nat.div_lt_self (by omega) hlow)
      rw [Nat.toDigits_of_base_le hlow hlarge]
      refine ⟨?_, List.forall_mem_append.mpr ⟨hall, List.forall_mem_singleton.mpr ?_⟩⟩
      · rw [plainValue_concat, hfront, hvalue, Option.getD_some]
        exact Nat.div_add_mod n base
      · rw [Hex.isDigit, hvalue]
        rfl

theorem toList_toString (n : Nat) : (toString n).toList = Nat.toDigits 10 n :=
  String.toList_ofList

/-- A number is written in its own decimal digits. -/
theorem isPlain_toString (n : Nat) : IsPlain (toString n).toList n := by
  have hvalue : plainValue 10 (Nat.toDigits 10 n) = n :=
    (plainValue_toDigits (by decide) (by decide) n).1
  have hplain : IsPlain (Nat.toDigits 10 n) (plainValue 10 (Nat.toDigits 10 n)) :=
    .decimal Nat.toDigits_ne_nil fun c hc =>
      Nat.isDigit_of_mem_toDigits (by decide) (by decide) hc
  rw [hvalue] at hplain
  rw [toList_toString]
  exact hplain

/-- A number is written in its own hexadecimal digits, in either case. -/
theorem isPlain_marked {x : Char} {digits : List Char} {n : Nat} (hx : x = 'x' ∨ x = 'X')
    (h : digits.map Char.toLower = Nat.toDigits 16 n) : IsPlain ('0' :: x :: digits) n := by
  obtain ⟨hvalue, hall⟩ : plainValue 16 (Nat.toDigits 16 n) = n ∧ _ :=
    plainValue_toDigits (by decide) (by decide) n
  have hne : digits ≠ [] := by
    rintro rfl
    exact Nat.toDigits_ne_nil h.symm
  rw [← h, plainValue_map_toLower] at hvalue
  rw [← h, List.forall_mem_map] at hall
  rw [← hvalue]
  refine .hexadecimal hx hne fun c hc => ?_
  have hlower := hall c hc
  rw [Hex.isDigit, digitValue?_toLower] at hlower
  exact hlower

/-! ### Plain numerals among the numerals -/

/-- On the digits of a plain numeral all readers of digits agree. -/
theorem ofDigits_eq_plainValue {value? : Char → Option Nat} {cs : List Char}
    (h : ∀ c ∈ cs, value? c = Hex.digitValue? c) (base : Nat) :
    ofDigits base (cs.map fun c => (value? c).getD 0) = plainValue base cs := by
  have hvalues := List.map_congr_left fun c hc => congrArg (Option.getD · 0) (h c hc)
  exact congrArg (ofDigits base) hvalues

/-- Decimal digits are a numeral unless there are too many of them. -/
theorem isDecimal_plainValue {cs : List Char} (hne : cs ≠ []) (h : ∀ c ∈ cs, c.isDigit = true)
    (hshort : cs.length ≤ digitLimit) : IsDecimal cs (plainValue 10 cs) := by
  have hvalue : ∀ c ∈ cs, Text.digitValue? c = Hex.digitValue? c := fun c hc =>
    (values_of_isDigit (h c hc)).2
  have hsome : ∀ c ∈ cs, (Text.digitValue? c).isSome = true := by
    intro c hc
    rw [hvalue c hc]
    exact (values_of_isDigit (h c hc)).1
  have hfirst : cs.head? ≠ some '_' := by
    intro hhead
    have hunder := h '_' (List.mem_of_head? hhead)
    revert hunder
    decide
  have hlength : (cs.map fun c => (Text.digitValue? c).getD 0).length ≤ digitLimit := by
    rw [List.length_map]
    exact hshort
  have hnumeral := IsDecimal.intro .none (spells_map hsome) hfirst (mt List.map_eq_nil_iff.mp hne)
    hlength
  rw [ofDigits_eq_plainValue hvalue] at hnumeral
  exact hnumeral

theorem isHexadecimal_plainValue {x : Char} {digits : List Char} (hx : x = 'x' ∨ x = 'X')
    (hne : digits ≠ []) (h : ∀ c ∈ digits, Hex.isDigit c = true) :
    IsHexadecimal ('0' :: x :: digits) (plainValue 16 digits) := by
  have hvalue : ∀ c ∈ digits, hexValue? c = Hex.digitValue? c := fun c hc =>
    hexValue?_of_ascii (Hex.toNat_lt_of_isDigit (h c hc))
  have hsome : ∀ c ∈ digits, (hexValue? c).isSome = true := by
    intro c hc
    rw [hvalue c hc]
    exact h c hc
  have hnumeral := IsHexadecimal.intro .none (by decide) hx (spells_map hsome)
    (mt List.map_eq_nil_iff.mp hne)
  rw [ofDigits_eq_plainValue hvalue] at hnumeral
  exact hnumeral

/-- A plain numeral that is not too long is a numeral. -/
theorem IsPlain.isNumeral {cs : List Char} {n : Nat} (h : IsPlain cs n)
    (hshort : cs.length ≤ digitLimit) : IsDecimal cs n ∨ IsHexadecimal cs n := by
  cases h with
  | decimal hne hdigits => exact .inl (isDecimal_plainValue hne hdigits hshort)
  | hexadecimal hx hne hdigits => exact .inr (isHexadecimal_plainValue hx hne hdigits)

/-- What holds of digits and of the letter in the mark holds of all characters of a plain
numeral. -/
theorem IsPlain.forall_mem {cs : List Char} {n : Nat} (h : IsPlain cs n) {P : Char → Prop}
    (hdigit : ∀ c, Hex.isDigit c = true → P c) (hx : ∀ c, c = 'x' ∨ c = 'X' → P c) :
    ∀ c ∈ cs, P c := by
  cases h with
  | decimal hne hdigits =>
    intro c hc
    exact hdigit c (values_of_isDigit (hdigits c hc)).1
  | hexadecimal hmark hne hdigits =>
    refine List.forall_mem_cons.mpr ⟨hdigit '0' (by decide), List.forall_mem_cons.mpr ⟨?_, ?_⟩⟩
    · exact hx _ hmark
    · exact fun c hc => hdigit c (hdigits c hc)

theorem IsPlain.isPlainChar {cs : List Char} {n : Nat} (h : IsPlain cs n) :
    ∀ c ∈ cs, IsPlainChar c := by
  refine h.forall_mem (fun c => isPlainChar_of_isDigit) ?_
  rintro c (rfl | rfl) <;> decide

/-- No blank stands in a plain numeral. -/
theorem IsPlain.solid {cs : List Char} {n : Nat} (h : IsPlain cs n) :
    Text.StartsSolid cs ∧ Text.EndsSolid cs := by
  have hne : cs ≠ [] := by
    cases h with
    | decimal hne hdigits => exact hne
    | hexadecimal hx hne hdigits => exact List.cons_ne_nil _ _
  refine Text.solid_of_not_blank hne (h.forall_mem ?_ ?_)
  · intro c hc
    exact Hex.forall_isDigit (P := fun c => Text.isBlank c = false) (by decide) hc
  · rintro c (rfl | rfl) <;> decide

theorem IsSign.eq_nil {sign : List Char} {negative : Bool} (h : IsSign sign negative)
    (hplain : ∀ c ∈ sign, IsPlainChar c) : sign = [] ∧ negative = false := by
  cases h with
  | none => exact ⟨rfl, rfl⟩
  | plus => exact absurd (hplain '+' (List.mem_singleton_self _)) (by decide)
  | minus => exact absurd (hplain '-' (List.mem_singleton_self _)) (by decide)

/-- Digits in which no character but plain ones stands have no underscores among them. -/
theorem underscore_not_mem {cs : List Char} (h : ∀ c ∈ cs, IsPlainChar c) : '_' ∉ cs := fun hmem =>
  absurd (h '_' hmem) (by decide)

theorem IsDecimal.isPlain {cs : List Char} {n : Int} (h : IsDecimal cs n)
    (hplain : ∀ c ∈ cs, IsPlainChar c) : ∃ m : Nat, n = m ∧ IsPlain cs m := by
  obtain ⟨hsign, hdigits, hfirst, hsome, hshort⟩ := h
  obtain ⟨hplainSign, hplainDigits⟩ := List.forall_mem_append.mp hplain
  obtain ⟨rfl, rfl⟩ := hsign.eq_nil hplainSign
  obtain ⟨hall, rfl⟩ := hdigits.of_not_mem (underscore_not_mem hplainDigits)
  have hascii := fun c hc => (isDigit_of_ascii (hplainDigits c hc).1).mp (hall c hc)
  have hvalue := ofDigits_eq_plainValue (fun c hc => (values_of_isDigit (hascii c hc)).2) 10
  refine ⟨_, congrArg (Int.ofNat ·) hvalue, ?_⟩
  exact .decimal (fun hnil => hsome (List.map_eq_nil_iff.mpr hnil)) hascii

theorem IsHexadecimal.isPlain {cs : List Char} {n : Int} (h : IsHexadecimal cs n)
    (hplain : ∀ c ∈ cs, IsPlainChar c) : ∃ m : Nat, n = m ∧ IsPlain cs m := by
  obtain ⟨hsign, -, hx, hdigits, hsome⟩ := h
  obtain ⟨hplainSign, hplainBody⟩ := List.forall_mem_append.mp hplain
  obtain ⟨rfl, rfl⟩ := hsign.eq_nil hplainSign
  have hplainDigits := (List.forall_mem_cons.mp (List.forall_mem_cons.mp hplainBody).2).2
  obtain ⟨hall, rfl⟩ := hdigits.of_not_mem (underscore_not_mem hplainDigits)
  have hagree := fun c hc => hexValue?_of_ascii (hplainDigits c hc).1
  have hvalue := ofDigits_eq_plainValue hagree 16
  refine ⟨_, congrArg (Int.ofNat ·) hvalue, ?_⟩
  refine .hexadecimal hx (fun hnil => hsome (List.map_eq_nil_iff.mpr hnil)) fun c hc => ?_
  rw [Hex.isDigit, ← hagree c hc]
  exact hall c hc

end Workflow.Numeral
