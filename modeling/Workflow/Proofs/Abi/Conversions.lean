import Workflow.Proofs.Call.Bytes
import Workflow.Proofs.Outcomes
import Workflow.Abi.Arguments

/-!
# Converting arguments of elementary types

For integers, truth values, addresses and bytes there is a rule each, and the beginning of the text
of a type says which of them counts; a value of any other type stays as it is.  `Converted` lists
the rules, and an argument is converted exactly by the one there is for its type
(`coerceElementary_eq_ok_iff`).  What has been converted is converted to itself (`Converted.self`).
-/

namespace Workflow.Abi

open Outcome

/-! ### Rules -/

/-- A text begins with another one. -/
def Begins (lead s : String) : Prop := ∃ rest, s = lead ++ rest

theorem startsWith_iff {lead s : String} : startsWith lead s = true ↔ Begins lead s := by
  rw [startsWith, List.isPrefixOf_iff_prefix]
  constructor
  · rintro ⟨rest, hrest⟩
    refine ⟨String.ofList rest, ?_⟩
    rw [← String.toList_inj, String.toList_append, String.toList_ofList, hrest]
  · rintro ⟨rest, rfl⟩
    exact ⟨rest.toList, String.toList_append.symm⟩

/-- The truth value that an argument stands for. -/
inductive TruthOf : Value → Bool → Prop where
  | bool (b : Bool) : TruthOf (.bool b) b
  | zero : TruthOf (.int 0) false
  | one : TruthOf (.int 1) true
  | text {s : String} {b : Bool} (h : truthOfText? s = some b) : TruthOf (.text s) b

/-- Whether there is a rule for the values of a type. -/
def HasRule (type : String) : Prop :=
  Begins "uint" type ∨ Begins "int" type ∨ type = "bool" ∨ type = "address" ∨ Begins "bytes" type

/-- What an argument of an elementary type becomes. -/
inductive Converted (type : String) : Value → Value → Prop where
  /-- The integer that it denotes. -/
  | integer {label : String} {v : Value} {n : Int}
    (htype : Begins "uint" type ∨ Begins "int" type) (h : integer label v = .ok n) :
    Converted type v (.int n)
  /-- The truth value that it stands for. -/
  | truth {v : Value} {b : Bool} (htype : type = "bool") (h : TruthOf v b) :
    Converted type v (.bool b)
  /-- The address in lower case. -/
  | address {s : String} (htype : type = "address") (h : isAddress s = true) :
    Converted type (.text s) (.text (Text.lower s))
  /-- The bytes that it denotes. -/
  | bytes {label : String} {v : Value} {bs : List UInt8} (htype : Begins "bytes" type)
    (h : hexBytes label v = .ok bs) : Converted type v (.bytes bs)
  /-- The argument itself. -/
  | same {v : Value} (htype : ¬ HasRule type) : Converted type v v

/-! ### Labels do not count -/

theorem integer_eq_ok_of_label {label : String} {v : Value} {n : Int}
    (h : integer label v = .ok n) (other : String) : integer other v = .ok n := by
  cases v with
  | int m => exact h
  | float x =>
    rw [integer] at h ⊢
    split at h
    · exact h
    · cases h
  | text s =>
    rw [integer] at h ⊢
    split at h
    · exact h
    · cases h
  | _ => cases h

theorem hexBytes_eq_ok_of_label {label : String} {v : Value} {bs : List UInt8}
    (h : hexBytes label v = .ok bs) (other : String) : hexBytes other v = .ok bs := by
  cases v with
  | bytes b => exact h
  | text s => rwa [hexBytes_text_eq_ok_iff] at h ⊢
  | _ => cases h

/-! ### One rule for each type -/

theorem coerceTruth_eq_ok_iff {label : String} {v w : Value} :
    coerceTruth label v = .ok w ↔ ∃ b, TruthOf v b ∧ .bool b = w := by
  constructor
  · intro h
    unfold coerceTruth at h
    dsimp only at h
    split at h
    · next b hb =>
      refine ⟨b, ?_, Except.ok.inj h⟩
      cases v with
      | text s => exact .text hb
      | bool b' =>
        obtain rfl := Option.some.inj hb
        exact .bool b'
      | int n =>
        dsimp only at hb
        split_ifs at hb with hzero hone
        · obtain rfl := Option.some.inj hb
          rw [hzero]
          exact .zero
        · obtain rfl := Option.some.inj hb
          rw [hone]
          exact .one
      | _ => cases hb
    · cases h
  · rintro ⟨b, hb, rfl⟩
    cases hb with
    | text h => simp only [coerceTruth, h]
    | _ => rfl

theorem coerceAddress_eq_ok_iff {label : String} {v w : Value} :
    coerceAddress label v = .ok w ↔
      ∃ s, v = .text s ∧ isAddress s = true ∧ .text (Text.lower s) = w := by
  cases v with
  | text s =>
    rw [coerceAddress]
    split_ifs with hs
    · rw [Except.ok.injEq]
      constructor
      · exact fun h => ⟨s, rfl, hs, h⟩
      · rintro ⟨t, ht, -, h⟩
        rwa [Value.text.inj ht]
    · refine iff_of_false (by rintro ⟨⟩) ?_
      rintro ⟨t, ht, h, -⟩
      exact hs (by rwa [Value.text.inj ht])
  | _ => exact iff_of_false (by rintro ⟨⟩) (by rintro ⟨_, ⟨⟩, -⟩)

theorem Begins.head?_eq {lead s : String} {c : Char} (h : Begins lead s)
    (hlead : lead.toList.head? = some c) : s.toList.head? = some c := by
  obtain ⟨rest, rfl⟩ := h
  rw [String.toList_append, List.head?_append, hlead]
  rfl

theorem not_begins_of_head? {lead s : String} {c d : Char} (hlead : lead.toList.head? = some c)
    (hs : s.toList.head? = some d) (hne : c ≠ d) : ¬ Begins lead s := by
  intro h
  rw [h.head?_eq hlead] at hs
  exact hne (Option.some.inj hs)

theorem isInteger_iff {type : String} :
    (startsWith "uint" type || startsWith "int" type) = true ↔
      Begins "uint" type ∨ Begins "int" type := by
  rw [Bool.or_eq_true, startsWith_iff, startsWith_iff]

/-- An argument of an elementary type is converted by the one rule there is for the type, if any. -/
theorem coerceElementary_eq_ok_iff {type label : String} {v w : Value} :
    coerceElementary type label v = .ok w ↔ Converted type v w := by
  constructor
  · intro h
    rw [coerceElementary] at h
    split_ifs at h with hinteger hbool haddress hbytes
    · obtain ⟨n, hn, rfl⟩ := map_eq_ok_iff.mp h
      exact .integer (isInteger_iff.mp hinteger) hn
    · obtain ⟨b, hb, rfl⟩ := coerceTruth_eq_ok_iff.mp h
      exact .truth hbool hb
    · obtain ⟨s, rfl, hs, rfl⟩ := coerceAddress_eq_ok_iff.mp h
      exact .address haddress hs
    · obtain ⟨bs, hbs, rfl⟩ := map_eq_ok_iff.mp h
      exact .bytes (startsWith_iff.mp hbytes) hbs
    · obtain rfl := Except.ok.inj h
      rw [isInteger_iff] at hinteger
      rw [startsWith_iff] at hbytes
      refine .same ?_
      rw [HasRule]
      tauto
  · intro h
    -- The first letter tells the rules apart.
    rw [coerceElementary]
    cases h with
    | integer htype h =>
      rw [if_pos (isInteger_iff.mpr htype), integer_eq_ok_of_label h]
      rfl
    | truth htype h =>
      subst htype
      rw [if_neg (by decide), if_pos rfl, coerceTruth_eq_ok_iff]
      exact ⟨_, h, rfl⟩
    | address htype h =>
      subst htype
      rw [if_neg (by decide), if_neg (by decide), if_pos rfl, coerceAddress, if_pos h]
    | bytes htype h =>
      have hhead := htype.head?_eq rfl
      have hinteger : ¬ (Begins "uint" type ∨ Begins "int" type) :=
        not_or.mpr ⟨not_begins_of_head? rfl hhead (by decide),
          not_begins_of_head? rfl hhead (by decide)⟩
      have hbool : type ≠ "bool" := by
        rintro rfl
        exact absurd (startsWith_iff.mpr htype) (by decide)
      have haddress : type ≠ "address" := by
        rintro rfl
        exact absurd (startsWith_iff.mpr htype) (by decide)
      rw [if_neg (isInteger_iff.not.mpr hinteger), if_neg hbool, if_neg haddress,
        if_pos (startsWith_iff.mpr htype), hexBytes_eq_ok_of_label h]
      rfl
    | same htype =>
      simp only [HasRule, ← or_assoc, not_or] at htype
      obtain ⟨⟨⟨hinteger, hbool⟩, haddress⟩, hbytes⟩ := htype
      rw [if_neg (isInteger_iff.not.mpr (not_or.mpr hinteger)), if_neg hbool, if_neg haddress,
        if_neg (startsWith_iff.not.mpr hbytes)]

/-! ### What has been converted -/

theorem Converted.self {type : String} {v w : Value} (h : Converted type v w) :
    Converted type w w := by
  cases h with
  | @integer label _ n htype h =>
    have hself : Workflow.integer label (.int n) = .ok n := rfl
    exact .integer htype hself
  | truth htype h => exact .truth htype (.bool _)
  | address htype h =>
    obtain ⟨haddress, hlower⟩ := isAddress_lower h
    have hself := Converted.address htype haddress
    rwa [hlower] at hself
  | @bytes label _ bs htype h =>
    have hself : hexBytes label (.bytes bs) = .ok bs :=
      mapError_eq_ok_iff.mpr (Hex.toBytes_ofBytes bs)
    exact .bytes htype hself
  | same htype => exact .same htype

theorem Converted.of_address {v w : Value} (h : Converted "address" v w) :
    ∃ s, isAddress s = true ∧ w = .text (Text.lower s) := by
  cases h with
  | integer htype =>
    rcases htype with htype | htype
    · exact absurd (startsWith_iff.mpr htype) (by decide)
    · exact absurd (startsWith_iff.mpr htype) (by decide)
  | truth htype => exact absurd htype (by decide)
  | address _ h => exact ⟨_, h, rfl⟩
  | bytes htype => exact absurd (startsWith_iff.mpr htype) (by decide)
  | same htype => exact absurd (.inr (.inr (.inr (.inl rfl)))) htype

end Workflow.Abi
