import Workflow.Call.Single
import Workflow.Proofs.Abi.Words
import Workflow.Proofs.Word

/-!
# Calls as bytes

The parts of a well-formed call denote bytes, and reading a payload gives the call back that is
written for these bytes: `Call.normal`, with target and data in lower case and the data behind its
mark (`Call.normal_eq`).  A target is checked less strictly than it is read: one line break behind
an address is let through, so there are two forms of it (`isAddress_iff`).
-/

namespace Workflow

/-! ### Addresses -/

theorem isPlainAddress_iff {cs : List Char} :
    isPlainAddress cs = true ↔
      ∃ digits, cs = '0' :: 'x' :: digits ∧ digits.length = 40 ∧ Hex.ArePairs digits := by
  constructor
  · intro h
    unfold isPlainAddress at h
    split at h
    · next digits =>
      rw [Bool.and_eq_true, beq_iff_eq, List.all_eq_true] at h
      exact ⟨digits, rfl, h.1, by rw [h.1], h.2⟩
    · cases h
  · rintro ⟨digits, rfl, hlen, -, hdigits⟩
    rw [isPlainAddress, Bool.and_eq_true, beq_iff_eq, List.all_eq_true]
    exact ⟨hlen, hdigits⟩

theorem newline_not_mem_of_isPlainAddress {cs : List Char} (h : isPlainAddress cs = true) :
    '\n' ∉ cs := by
  obtain ⟨digits, rfl, -, hpairs⟩ := isPlainAddress_iff.mp h
  simp only [List.mem_cons, not_or]
  exact ⟨by decide, by decide, hpairs.newline_not_mem⟩

theorem isAddress_of_isPlainAddress {s : String} (h : isPlainAddress s.toList = true) :
    isAddress s = true := by
  rw [isAddress, Hex.dropFinalNewline_of_not_mem (newline_not_mem_of_isPlainAddress h)]
  exact h

theorem isAddress_iff {s : String} :
    isAddress s = true ↔ isPlainAddress s.toList = true
      ∨ ∃ cs, s.toList = cs ++ ['\n'] ∧ isPlainAddress cs = true := by
  constructor
  · intro h
    rcases Hex.eq_dropFinalNewline_or s.toList with heq | heq
    · left
      rw [heq]
      exact h
    · exact .inr ⟨_, heq, h⟩
  · rintro (h | ⟨cs, heq, h⟩)
    · exact isAddress_of_isPlainAddress h
    · rw [isAddress, heq, Hex.dropFinalNewline_append]
      exact h

/-- Digits of an address stay digits in lower case. -/
theorem isPlainAddress_map_toLower {cs : List Char} (h : isPlainAddress cs = true) :
    (∀ c ∈ cs, c.toNat < 0x80) ∧ isPlainAddress (cs.map Char.toLower) = true := by
  obtain ⟨digits, rfl, hlen, hpairs⟩ := isPlainAddress_iff.mp h
  have hascii : ∀ c ∈ digits, c.toNat < 0x80 := fun c hc => Hex.toNat_lt_of_isDigit (hpairs.2 c hc)
  have hlower := (Hex.arePairs_map_toLower hascii).mpr hpairs
  refine ⟨?_, isPlainAddress_iff.mpr ⟨_, rfl, by rw [List.length_map, hlen], hlower⟩⟩
  simp only [List.forall_mem_cons]
  exact ⟨by decide, by decide, hascii⟩

/-- What passes for an address does so in lower case, which is its own lower case. -/
theorem isAddress_lower {s : String} (h : isAddress s = true) :
    isAddress (Text.lower s) = true ∧ Text.lower (Text.lower s) = Text.lower s := by
  rcases isAddress_iff.mp h with hplain | ⟨cs, hs, hcs⟩
  · obtain ⟨hascii, hlower⟩ := isPlainAddress_map_toLower hplain
    refine ⟨isAddress_of_isPlainAddress ?_, Text.lower_lower_of_ascii hascii⟩
    rw [Text.lower_of_ascii hascii, String.toList_ofList]
    exact hlower
  · obtain ⟨hascii, hlower⟩ := isPlainAddress_map_toLower hcs
    have hall : ∀ c ∈ s.toList, c.toNat < 0x80 := by
      rw [hs, List.forall_mem_append, List.forall_mem_singleton]
      exact ⟨hascii, by decide⟩
    refine ⟨isAddress_iff.mpr (.inr ⟨_, ?_, hlower⟩), Text.lower_lower_of_ascii hall⟩
    rw [Text.lower_of_ascii hall, String.toList_ofList, hs, List.map_append]
    rfl

/-! ### The bytes of a text -/

/-- The bytes that a hexadecimal text denotes; other texts denote none. -/
def Hex.bytesIn (s : String) : List UInt8 := (Hex.toBytes s).toOption.getD []

theorem Hex.toBytes_of_arePairs {s : String} (h : Hex.ArePairs (Hex.unmarked s.toList)) :
    Hex.toBytes s = .ok (Hex.bytesIn s) := by
  obtain ⟨bs, hbs⟩ := Hex.exists_decode_eq_ok h
  have hs : Hex.toBytes s = .ok bs := hbs
  rw [Hex.bytesIn, hs]
  rfl

theorem Hex.lower_eq_ofBytes {s : String} (h : Hex.ArePairs (Hex.unmarked s.toList)) :
    Text.lower (String.ofList ('0' :: 'x' :: Hex.unmarked s.toList))
      = Hex.ofBytes (Hex.bytesIn s) :=
  Hex.lower_marked (Hex.toBytes_of_arePairs h)

theorem Hex.length_bytesIn {s : String} (h : Hex.ArePairs (Hex.unmarked s.toList)) :
    2 * (Hex.bytesIn s).length = (Hex.unmarked s.toList).length :=
  Hex.length_of_decode_eq_ok (Hex.toBytes_of_arePairs h)

theorem hexBytes_eq_ok_iff {label s : String} {bs : List UInt8} :
    hexBytes label (.text s) = .ok bs ↔
      Hex.ArePairs (Hex.unmarked s.toList) ∧ Hex.bytesIn s = bs := by
  rw [hexBytes_text_eq_ok_iff]
  constructor
  · intro h
    have hpairs := (Hex.decode_eq_ok_iff.mp h).1
    exact ⟨hpairs, Except.ok.inj ((Hex.toBytes_of_arePairs hpairs).symm.trans h)⟩
  · rintro ⟨hpairs, rfl⟩
    exact Hex.toBytes_of_arePairs hpairs

/-! ### The digits of an address -/

/-- Whether a text is forty hexadecimal digits, behind a mark of either case or without one. -/
structure HasAddressDigits (s : String) : Prop where
  /-- There are forty of them. -/
  length_eq : (Hex.unmarked s.toList).length = 40
  /-- They are hexadecimal. -/
  arePairs : Hex.ArePairs (Hex.unmarked s.toList)

theorem hasAddressDigits_iff (s : String) :
    HasAddressDigits s ↔ (Hex.unmarked s.toList).length = 40
      ∧ Hex.ArePairs (Hex.unmarked s.toList) :=
  ⟨fun h => ⟨h.length_eq, h.arePairs⟩, fun h => ⟨h.1, h.2⟩⟩

instance HasAddressDigits.decidable (s : String) : Decidable (HasAddressDigits s) :=
  decidable_of_iff _ (hasAddressDigits_iff s).symm

theorem HasAddressDigits.length_bytesIn {s : String} (h : HasAddressDigits s) :
    (Hex.bytesIn s).length = 20 := by
  have hlen := h.length_eq
  have hbytes := Hex.length_bytesIn h.arePairs
  omega

/-- The digits of an address behind their mark. -/
theorem unmarked_of_isPlainAddress {s : String} (h : isPlainAddress s.toList = true) :
    s = String.ofList ('0' :: 'x' :: Hex.unmarked s.toList) ∧ HasAddressDigits s := by
  obtain ⟨digits, hs, hlen, hpairs⟩ := isPlainAddress_iff.mp h
  have hdigits : Hex.unmarked s.toList = digits := by rw [hs, Hex.unmarked_marked]
  rw [hasAddressDigits_iff, hdigits, ← hs, String.ofList_toList]
  exact ⟨rfl, hlen, hpairs⟩

theorem lower_of_isPlainAddress {s : String} (h : isPlainAddress s.toList = true) :
    Text.lower s = Hex.ofBytes (Hex.bytesIn s) := by
  obtain ⟨hs, hdigits⟩ := unmarked_of_isPlainAddress h
  rw [← Hex.lower_eq_ofBytes hdigits.arePairs, ← hs]

theorem length_bytesIn_of_isPlainAddress {s : String} (h : isPlainAddress s.toList = true) :
    (Hex.bytesIn s).length = 20 := (unmarked_of_isPlainAddress h).2.length_bytesIn

/-- Of the texts that pass for an address, those that have its digits are plain ones: a line break
is a character too many. -/
theorem hasAddressDigits_iff_of_isAddress {s : String} (h : isAddress s = true) :
    HasAddressDigits s ↔ isPlainAddress s.toList = true := by
  refine ⟨fun hdigits => ?_, fun hplain => (unmarked_of_isPlainAddress hplain).2⟩
  rcases isAddress_iff.mp h with hplain | ⟨cs, hs, hcs⟩
  · exact hplain
  · obtain ⟨digits, rfl, hlen, -⟩ := isPlainAddress_iff.mp hcs
    have hlong := hdigits.length_eq
    rw [hs, List.cons_append, List.cons_append, Hex.unmarked_marked, List.length_append, hlen]
      at hlong
    cases hlong

/-- A text with the digits of an address consists of these and the mark. -/
theorem HasAddressDigits.mem {s : String} (h : HasAddressDigits s) {c : Char} (hc : c ∈ s.toList) :
    Hex.isDigit c = true ∨ c = 'x' ∨ c = 'X' := by
  rcases Hex.mem_unmarked_or hc with hdigit | rfl | rfl | rfl
  · exact .inl (h.arePairs.2 c hdigit)
  · exact .inl rfl
  · exact .inr (.inl rfl)
  · exact .inr (.inr rfl)

theorem HasAddressDigits.ascii {s : String} (h : HasAddressDigits s) :
    ∀ c ∈ s.toList, c.toNat < 0x80 := by
  intro c hc
  rcases h.mem hc with hdigit | rfl | rfl
  · exact Hex.toNat_lt_of_isDigit hdigit
  · decide
  · decide

/-- A text whose lower-case form has the digits of an address is in ASCII: the letter k, which one
character outside of it becomes, is no digit. -/
theorem ascii_of_lower_hasAddressDigits {s : String} (h : HasAddressDigits (Text.lower s)) :
    ∀ c ∈ s.toList, c.toNat < 0x80 := by
  refine @Text.ascii_of_lowerFrom [] _ fun c hc => ?_
  have hmem : c ∈ (Text.lower s).toList := by
    rw [Text.lower, String.toList_ofList]
    exact hc
  refine ⟨h.ascii c hmem, ?_⟩
  rintro rfl
  have hk := h.mem hmem
  revert hk
  decide

theorem unmarked_lower_of_ascii {s : String} (h : ∀ c ∈ s.toList, c.toNat < 0x80) :
    Hex.unmarked (Text.lower s).toList = (Hex.unmarked s.toList).map Char.toLower := by
  rw [Text.lower_of_ascii h, String.toList_ofList, Hex.unmarked_map_toLower h]

/-- Lower case neither takes the digits of an address away nor supplies them. -/
theorem hasAddressDigits_lower_iff {s : String} :
    HasAddressDigits (Text.lower s) ↔ HasAddressDigits s := by
  have hiff : (∀ c ∈ s.toList, c.toNat < 0x80) →
      (HasAddressDigits (Text.lower s) ↔ HasAddressDigits s) := by
    intro hascii
    have hdigits : ∀ c ∈ Hex.unmarked s.toList, c.toNat < 0x80 := by
      obtain ⟨mark, hmark⟩ := Hex.exists_mark s.toList
      intro c hc
      refine hascii c ?_
      rw [hmark]
      exact List.mem_append_right mark hc
    rw [hasAddressDigits_iff, hasAddressDigits_iff, unmarked_lower_of_ascii hascii,
      List.length_map, Hex.arePairs_map_toLower hdigits]
  exact ⟨fun h => (hiff (ascii_of_lower_hasAddressDigits h)).mp h, fun h => (hiff h.ascii).mpr h⟩

theorem bytesIn_lower {s : String} (h : HasAddressDigits s) :
    Hex.bytesIn (Text.lower s) = Hex.bytesIn s := by
  obtain ⟨-, hdigits⟩ := Hex.decode_eq_ok_iff.mp (Hex.toBytes_of_arePairs h.arePairs)
  have hread : Hex.toBytes (Text.lower s) = .ok (Hex.bytesIn s) := by
    rw [Hex.toBytes, unmarked_lower_of_ascii h.ascii, ← hdigits]
    exact Hex.decode_encode _
  rw [Hex.bytesIn, hread]
  rfl

/-! ### Well-formed calls -/

/-- Whether a call can be put into a payload. -/
structure Call.WellFormed (call : Call) : Prop where
  /-- The target is `0x` and forty digits. -/
  target : isPlainAddress call.target.toList = true
  /-- A word holds the amount. -/
  amount : call.amount < 2 ^ 256
  /-- The data are digit pairs, with or without their mark. -/
  data : Hex.ArePairs (Hex.unmarked call.data.toList)

theorem Call.wellFormed_iff (call : Call) :
    call.WellFormed ↔ isPlainAddress call.target.toList = true ∧ call.amount < 2 ^ 256
      ∧ Hex.ArePairs (Hex.unmarked call.data.toList) :=
  ⟨fun h => ⟨h.target, h.amount, h.data⟩, fun h => ⟨h.1, h.2.1, h.2.2⟩⟩

instance Call.decidableWellFormed (call : Call) : Decidable call.WellFormed :=
  decidable_of_iff _ call.wellFormed_iff.symm

/-- A call whose target and data have bytes, whatever the mark of its target is. -/
structure Call.Batchable (call : Call) : Prop where
  /-- The target has the digits of an address. -/
  target : HasAddressDigits call.target
  /-- A word holds the amount. -/
  amount : call.amount < 2 ^ 256
  /-- The data are digit pairs, with or without their mark. -/
  data : Hex.ArePairs (Hex.unmarked call.data.toList)

theorem Call.WellFormed.batchable {call : Call} (h : call.WellFormed) : call.Batchable :=
  ⟨(unmarked_of_isPlainAddress h.target).2, h.amount, h.data⟩

theorem Call.batchable_iff_wellFormed {call : Call} (h : isAddress call.target = true) :
    call.Batchable ↔ call.WellFormed :=
  ⟨fun hcall => ⟨(hasAddressDigits_iff_of_isAddress h).mp hcall.target, hcall.amount, hcall.data⟩,
    fun hcall => hcall.batchable⟩

/-- The call that is written for the bytes of a call. -/
def Call.written (call : Call) : Call :=
  ⟨Hex.ofBytes (Hex.bytesIn call.target), call.amount, Hex.ofBytes (Hex.bytesIn call.data)⟩

/-- A call with target and data in lower case, the data behind their mark. -/
def Call.normal (call : Call) : Call :=
  { call with
    target := Text.lower call.target
    data := Text.lower (String.ofList ('0' :: 'x' :: Hex.unmarked call.data.toList)) }

/-- The number of bytes of the data of a call. -/
def Call.dataSize (call : Call) : Nat := (Hex.unmarked call.data.toList).length / 2

/-- What is read back of a call is what is written for its bytes. -/
theorem Call.normal_eq {call : Call} (h : call.WellFormed) : call.normal = call.written := by
  rw [Call.normal, lower_of_isPlainAddress h.target, Hex.lower_eq_ofBytes h.data]
  rfl

theorem Call.map_normal_eq {calls : List Call} (h : ∀ call ∈ calls, call.WellFormed) :
    calls.map Call.normal = calls.map Call.written :=
  List.map_congr_left fun call hc => Call.normal_eq (h call hc)

theorem Call.length_bytesIn_data {call : Call} (h : call.Batchable) :
    (Hex.bytesIn call.data).length = call.dataSize := by
  have hlen := Hex.length_bytesIn h.data
  rw [Call.dataSize]
  omega

end Workflow
