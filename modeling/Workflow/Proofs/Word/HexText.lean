import Workflow.Proofs.Call.Payloads

/-!
# Hexadecimal text in normal form

Marking the digits of a value (`hexText`) gives a text in normal form, the mark `0x` and digits in
pairs, that denotes the bytes of the value (`Value.NormalisesTo.normal`), and marking them again
changes nothing (`hexText_of_hexText`).  A text is let through with one line break behind its
digits, which then stands behind the normal form as well; so what comes out is in normal form
exactly if there is no such line break (`Hex.not_isNormal_of_newline`).

A value whose digits are not marked is refused.  The refusal shows the value, and an integer in it
that is too long to be written is a fault (`hexText_eq_error_iff`).  `hexText_normalises` puts this
together for all values.
-/

namespace Workflow

/-! ### Digits and bytes -/

/-- Whether digits, two for each byte and in either case, denote some bytes. -/
def Hex.Denotes (cs : List Char) (bs : List UInt8) : Prop :=
  Hex.ArePairs cs ∧ cs.map Char.toLower = Hex.encode bs

/-- Whether a text is `0x` and digits in pairs that denote some bytes, and nothing else. -/
def Hex.IsNormal (s : String) (bs : List UInt8) : Prop :=
  ∃ digits, s = String.ofList ('0' :: 'x' :: digits) ∧ Hex.Denotes digits bs

theorem Hex.denotes_encode (bs : List UInt8) : Hex.Denotes (Hex.encode bs) bs :=
  ⟨Hex.arePairs_encode bs, Hex.map_toLower_encode bs⟩

theorem Hex.ArePairs.exists_denotes {cs : List Char} (h : Hex.ArePairs cs) :
    ∃ bs, Hex.Denotes cs bs := by
  obtain ⟨bs, hbs⟩ := Hex.exists_decode_eq_ok h
  obtain ⟨-, hencode⟩ := Hex.decode_eq_ok_iff.mp hbs
  exact ⟨bs, h, hencode.symm⟩

theorem Hex.isNormal_ofBytes (bs : List UInt8) : Hex.IsNormal (Hex.ofBytes bs) bs :=
  ⟨Hex.encode bs, rfl, Hex.denotes_encode bs⟩

/-- No text with a line break in it is in normal form. -/
theorem Hex.not_isNormal_of_newline (t : String) (bs : List UInt8) :
    ¬ Hex.IsNormal (t ++ "\n") bs := by
  rintro ⟨digits, htext, hpairs, -⟩
  have hchars : t.toList ++ ['\n'] = '0' :: 'x' :: digits := by
    have hfront : (t ++ "\n").toList = t.toList ++ ['\n'] := String.toList_append
    rw [← hfront, htext]
    exact String.toList_ofList
  have hmem : '\n' ∈ '0' :: 'x' :: digits := by
    rw [← hchars]
    exact List.mem_append_right _ (List.mem_singleton_self _)
  -- The line break is not part of the mark, so it would have to be a digit.
  simp only [List.mem_cons] at hmem
  rcases hmem with hzero | hx | hdigit
  · revert hzero
    decide
  · revert hx
    decide
  · exact hpairs.newline_not_mem hdigit

/-! ### The digits of a value -/

namespace Value

/-- The digits that a value offers: those written for a byte string, and of a text what stands
behind its mark, if it has one. -/
def hexDigits? : Value → Option (List Char)
  | .bytes bs => some (Hex.encode bs)
  | .text s => some (Hex.unmarked s.toList)
  | _ => none

/-- Whether a value stands for some bytes: a byte string for itself, a text for the bytes that its
digits denote. -/
inductive StandsFor : Value → List UInt8 → Prop where
  | bytes (bs : List UInt8) : StandsFor (.bytes bs) bs
  | text {s : String} {bs : List UInt8} (h : Hex.Denotes (Hex.unmarked s.toList) bs) :
    StandsFor (.text s) bs

/-- Whether a value is a text whose digits have a line break behind them. -/
def BreaksLine (v : Value) : Prop := ∃ s, v = .text s ∧ Hex.IsBrokenPairs s

theorem not_breaksLine_bytes (bs : List UInt8) : ¬ (Value.bytes bs).BreaksLine := by
  rintro ⟨s, heq, -⟩
  cases heq

theorem breaksLine_text_iff {s : String} : (Value.text s).BreaksLine ↔ Hex.IsBrokenPairs s := by
  constructor
  · rintro ⟨t, heq, hbroken⟩
    obtain rfl := Value.text.inj heq
    exact hbroken
  · intro hbroken
    exact ⟨s, rfl, hbroken⟩

theorem exists_standsFor_text_iff {s : String} :
    (∃ bs, (Value.text s).StandsFor bs) ↔ Hex.IsPairs s := by
  constructor
  · rintro ⟨bs, hfor⟩
    cases hfor with
    | text h => exact h.1
  · intro hpairs
    obtain ⟨bs, hbs⟩ := Hex.ArePairs.exists_denotes hpairs
    exact ⟨bs, .text hbs⟩

/-- What marking the digits of a value makes of it. -/
structure NormalisesTo (v : Value) (s : String) : Prop where
  /-- The digits of the value stand behind the mark as they are. -/
  digits : ∃ cs, v.hexDigits? = some cs ∧ s = String.ofList ('0' :: 'x' :: cs)
  /-- Without a line break behind its digits, the text is in normal form and denotes the bytes of
  the value. -/
  normal : ¬ v.BreaksLine → ∃ bs, v.StandsFor bs ∧ Hex.IsNormal s bs
  /-- A line break stands behind what would be in normal form without it. -/
  broken : v.BreaksLine → ∃ t bs, s = t ++ "\n" ∧ Hex.IsNormal t bs
  /-- Marking the digits of the text changes nothing. -/
  again : ∀ label, hexText label (.text s) = .ok s

end Value

/-! ### Marking digits -/

/-- The check lets digits in pairs through, and a line break behind them. -/
theorem Hex.arePairs_dropFinalNewline_iff {s : String} :
    Hex.ArePairs (Hex.dropFinalNewline (Hex.unmarked s.toList))
      ↔ Hex.IsPairs s ∨ Hex.IsBrokenPairs s := by
  constructor
  · intro hchecked
    rcases Hex.eq_dropFinalNewline_or (Hex.unmarked s.toList) with heq | heq
    · left
      rw [Hex.IsPairs, heq]
      exact hchecked
    · exact .inr (Hex.isBrokenPairs_iff.mpr ⟨_, heq, hchecked⟩)
  · rintro (hpairs | hbroken)
    · rw [Hex.dropFinalNewline_of_not_mem hpairs.newline_not_mem]
      exact hpairs
    · obtain ⟨cs, hs, hcs⟩ := Hex.isBrokenPairs_iff.mp hbroken
      rw [hs, Hex.dropFinalNewline_append]
      exact hcs

theorem normalisesTo_bytes (bs : List UInt8) :
    (Value.bytes bs).NormalisesTo (Hex.ofBytes bs) where
  digits := ⟨Hex.encode bs, rfl, rfl⟩
  normal _ := ⟨bs, .bytes bs, Hex.isNormal_ofBytes bs⟩
  broken h := absurd h (Value.not_breaksLine_bytes bs)
  again := hexText_of_hexText (show hexText "" (.bytes bs) = .ok (Hex.ofBytes bs) from rfl)

theorem normalisesTo_text {label s t : String} (h : hexText label (.text s) = .ok t) :
    (Value.text s).NormalisesTo t := by
  have hagain := hexText_of_hexText h
  rw [hexText_text] at h
  split_ifs at h with hchecked
  obtain rfl := Except.ok.inj h
  refine ⟨⟨_, rfl, rfl⟩, ?_, ?_, hagain⟩
  · intro hplain
    have hpairs : Hex.IsPairs s := by
      refine (Hex.arePairs_dropFinalNewline_iff.mp hchecked).resolve_right fun hbroken => ?_
      exact hplain (Value.breaksLine_text_iff.mpr hbroken)
    obtain ⟨bs, hbs⟩ := Hex.ArePairs.exists_denotes hpairs
    exact ⟨bs, .text hbs, _, rfl, hbs⟩
  · intro hbreaks
    obtain ⟨cs, hs, hcs⟩ := Hex.isBrokenPairs_iff.mp (Value.breaksLine_text_iff.mp hbreaks)
    obtain ⟨bs, hbs⟩ := hcs.exists_denotes
    refine ⟨String.ofList ('0' :: 'x' :: cs), bs, ?_, cs, rfl, hbs⟩
    rw [hs, ← String.toList_inj, String.toList_append, String.toList_ofList, String.toList_ofList]
    rfl

/-- The digits of byte strings are marked, and those of texts that pass the check. -/
theorem exists_hexText_iff (label : String) (v : Value) :
    (∃ s, hexText label v = .ok s) ↔ (∃ bs, v.StandsFor bs) ∨ v.BreaksLine := by
  cases v with
  | bytes bs => exact iff_of_true ⟨_, rfl⟩ (.inl ⟨bs, .bytes bs⟩)
  | text s =>
    rw [Value.exists_standsFor_text_iff, Value.breaksLine_text_iff,
      ← Hex.arePairs_dropFinalNewline_iff, hexText_text]
    split_ifs with hchecked
    · exact iff_of_true ⟨_, rfl⟩ hchecked
    · exact iff_of_false nofun hchecked
  | _ =>
    refine iff_of_false nofun ?_
    rintro (⟨bs, hfor⟩ | ⟨s, heq, -⟩)
    · cases hfor
    · cases heq

theorem hexText_eq_error {label : String} {v : Value} {e : Failure}
    (h : hexText label v = .error e) : e = .showing v (.coding (.notHex label v)) := by
  cases v with
  | bytes bs => cases h
  | text s =>
    rw [hexText_text] at h
    split_ifs at h
    -- A text can always be shown.
    exact (Except.error.inj h).symm
  | _ => exact (Except.error.inj h).symm

/-- **Normal form.**  What the digits of a value are marked to denotes the bytes of the value and is
in normal form, but for a line break that may stand behind the digits of a text, and marking the
digits again changes nothing.  The values with digits are byte strings, texts of digits in pairs,
and such texts with a line break behind them.  All others are refused; if the refusal cannot show
the value, it is a fault. -/
theorem hexText_normalises (label : String) (v : Value) :
    (∀ s, hexText label v = .ok s → v.NormalisesTo s)
    ∧ ((∃ s, hexText label v = .ok s) ↔ (∃ bs, v.StandsFor bs) ∨ v.BreaksLine)
    ∧ ∀ e, hexText label v = .error e → e.IsRefusalOf v (.notHex label v) := by
  refine ⟨?_, exists_hexText_iff label v, ?_⟩
  · intro s hs
    cases v with
    | bytes bs =>
      obtain rfl := Except.ok.inj hs
      exact normalisesTo_bytes bs
    | text t => exact normalisesTo_text hs
    | _ => cases hs
  · intro e he
    rw [hexText_eq_error he]
    exact Failure.isRefusalOf_showing v _

/-- The mark with a line break behind it is let through as it is, although it is not in normal form,
and an integer that is too long for a message breaks off what should refuse it. -/
theorem mark_with_lineBreak_kept :
    hexText "data" (.text "0x\n") = .ok "0x\n" ∧ (∀ bs, ¬ Hex.IsNormal "0x\n" bs)
      ∧ hexText "data" Value.leastTooLong = .error (.fault (.numeral .tooLongToWrite)) := by
  have hmarked : hexText "data" (.text "0x\n") = .ok "0x\n" := by cbv
  have hlong : hexText "data" Value.leastTooLong
      = .error (Failure.showing Value.leastTooLong
        (.coding (.notHex "data" Value.leastTooLong))) := rfl
  refine ⟨hmarked, Hex.not_isNormal_of_newline "0x", ?_⟩
  rw [hlong, Failure.showing_of_not_isWritable Value.isWritable_leastTooLong]

end Workflow
