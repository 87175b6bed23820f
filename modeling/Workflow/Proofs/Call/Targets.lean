import Workflow.Definition.Validation
import Workflow.Input.Binding
import Workflow.Proofs.Call.Preparation

/-!
# Five checks of one address

The text of an address is looked at in five places: in the allow-list of a definition, in an input
of a run, as the target of an operation, as an argument of a call, and as the target of a call that
is packed alone.  All five let the same texts through (`addressChecks`), those that pass for an
address: an address, or an address with one line break behind it.

Behind the checks the payloads are written, and there the line break counts.  A call that an
operation has formed is packed exactly if its target is an address and nothing else, alone
(`exists_pack_iff`) as well as in a batch (`exists_packBatch_iff`).  So the checks agree with each
other, and a target that has passed them fails later exactly if a line break stands behind it
(`addressChecks_agree`).
-/

namespace Workflow

/-! ### The texts that pass -/

/-- Whether a text is an address: `0x`, forty hexadecimal digits, and nothing else. -/
def IsAddressText (s : String) : Prop :=
  ∃ digits : List Char, s = String.ofList ('0' :: 'x' :: digits) ∧ digits.length = 40
    ∧ ∀ c ∈ digits, c ∈ Hex.alphabet

/-- Whether a text passes for an address: one line break may stand behind it. -/
def PassesForAddress (s : String) : Prop :=
  IsAddressText s ∨ ∃ t, s = t ++ "\n" ∧ IsAddressText t

theorem Hex.isDigit_iff_mem_alphabet {c : Char} : Hex.isDigit c = true ↔ c ∈ Hex.alphabet := by
  have hall : (Hex.alphabet.all Hex.isDigit) = true := by decide
  exact ⟨Hex.mem_alphabet, List.all_eq_true.mp hall c⟩

theorem isAddressText_ofList_iff {cs : List Char} :
    IsAddressText (String.ofList cs) ↔ isPlainAddress cs = true := by
  rw [IsAddressText, isPlainAddress_iff]
  simp only [String.ofList_inj, ← Hex.isDigit_iff_mem_alphabet]
  constructor
  · rintro ⟨digits, hcs, hlen, hdigits⟩
    exact ⟨digits, hcs, hlen, by rw [hlen], hdigits⟩
  · rintro ⟨digits, hcs, hlen, hpairs⟩
    exact ⟨digits, hcs, hlen, hpairs.2⟩

theorem isAddressText_iff {s : String} : IsAddressText s ↔ isPlainAddress s.toList = true := by
  rw [← isAddressText_ofList_iff, String.ofList_toList]

instance IsAddressText.decidable (s : String) : Decidable (IsAddressText s) :=
  decidable_of_iff _ isAddressText_iff.symm

theorem passesForAddress_iff {s : String} : PassesForAddress s ↔ isAddress s = true := by
  rw [PassesForAddress, isAddress_iff, isAddressText_iff]
  refine or_congr_right ⟨?_, ?_⟩
  · rintro ⟨t, rfl, ht⟩
    exact ⟨t.toList, String.toList_append, isAddressText_iff.mp ht⟩
  · rintro ⟨cs, hs, hcs⟩
    refine ⟨String.ofList cs, ?_, isAddressText_ofList_iff.mpr hcs⟩
    rw [← String.toList_inj, hs, String.toList_append, String.toList_ofList]
    rfl

instance PassesForAddress.decidable (s : String) : Decidable (PassesForAddress s) :=
  decidable_of_iff _ passesForAddress_iff.symm

/-! ### The checks -/

/-- What the five checks of addresses say of a text: each accepts it exactly if `accepted` holds.
The last two of them refuse what they do not accept as an invalid target. -/
structure AddressChecks (s : String) (accepted : Prop) : Prop where
  /-- The allow-list of a definition. -/
  allowed : ∀ t : AllowedTarget, t.address = s → (t.isWellFormed = true ↔ accepted)
  /-- An input that is an address. -/
  input : (∃ v, VariableType.address.coerce (.text s) = .ok v) ↔ accepted
  /-- An argument that is an address. -/
  argument : ∀ (p : Abi.Parameter) (label : String), p.type = "address" →
    ((∃ v, p.coerce label (.text s) = .ok v) ↔ accepted)
  /-- What the target of an operation is resolved to. -/
  operation : ∀ (op : Operation) (c : Context), c.resolveText op.target = .ok (.text s) →
    (op.resolveTarget c = .ok s ↔ accepted)
      ∧ (¬ accepted → op.toCall c = .error (.badTarget (.text op.target) (.text s)))
  /-- The target of a call that is packed alone. -/
  single : ∀ amount data : Value,
    (checkTarget (.text s) = .ok s ↔ accepted)
      ∧ (¬ accepted → UncheckedCall.pack ⟨.text s, amount, data⟩
        = .error (.coding (.badTarget (.text s))))

variable {s : String}

theorem exists_coerce_address_iff :
    (∃ v, VariableType.address.coerce (.text s) = .ok v) ↔ isAddress s = true := by
  rw [VariableType.coerce]
  split_ifs with hs
  · exact iff_of_true ⟨_, rfl⟩ hs
  · exact iff_of_false (by rintro ⟨_, ⟨⟩⟩) hs

/-- For a parameter of type `address` the type is no array and no tuple. -/
theorem Abi.Parameter.coerce_of_address {p : Abi.Parameter} (hp : p.type = "address")
    (label : String) (v : Value) : p.coerce label v = Abi.coerceAddress label v := by
  obtain ⟨name, type, components⟩ := p
  obtain rfl : type = "address" := hp
  have hlayers : Abi.Layers.ofType "address" = .base "address" := by cbv
  rw [Abi.Parameter.coerce, hlayers]
  rfl

theorem Abi.exists_coerceAddress_iff (label : String) :
    (∃ v, Abi.coerceAddress label (.text s) = .ok v) ↔ isAddress s = true := by
  rw [Abi.coerceAddress]
  split_ifs with hs
  · exact iff_of_true ⟨_, rfl⟩ hs
  · exact iff_of_false (by rintro ⟨_, ⟨⟩⟩) hs

section

variable {op : Operation} {c : Context}

theorem Operation.resolveTarget_of_text (h : c.resolveText op.target = .ok (.text s)) :
    op.resolveTarget c
      = if isAddress s then .ok s else .error (.badTarget (.text op.target) (.text s)) := by
  rw [Operation.resolveTarget, h]
  rfl

/-- An operation whose target is refused forms no call. -/
theorem Operation.toCall_of_text (h : c.resolveText op.target = .ok (.text s))
    (hs : ¬ isAddress s = true) :
    op.toCall c = .error (.badTarget (.text op.target) (.text s)) := by
  rw [Operation.toCall, Operation.resolveTarget_of_text h, if_neg hs]
  rfl

end

theorem checkTarget_text (s : String) :
    checkTarget (.text s)
      = if isAddress s then .ok s else .error (.coding (.badTarget (.text s))) := rfl

theorem UncheckedCall.pack_of_not_isAddress (hs : ¬ isAddress s = true) (amount data : Value) :
    UncheckedCall.pack ⟨.text s, amount, data⟩ = .error (.coding (.badTarget (.text s))) := by
  rw [UncheckedCall.pack, UncheckedCall.packBytes, checkTarget_text, if_neg hs]
  rfl

/-- All checks accept the same texts. -/
theorem addressChecks (s : String) : AddressChecks s (PassesForAddress s) := by
  rw [passesForAddress_iff]
  refine ⟨fun t ht => ?_, exists_coerce_address_iff, fun p label hp => ?_, fun op c h => ⟨?_, ?_⟩,
    fun amount data => ⟨?_, ?_⟩⟩
  · rw [AllowedTarget.isWellFormed, ht]
  · rw [Abi.Parameter.coerce_of_address hp]
    exact Abi.exists_coerceAddress_iff label
  · rw [Operation.resolveTarget_of_text h]
    split_ifs with hs
    · exact iff_of_true rfl hs
    · exact iff_of_false (by rintro ⟨⟩) hs
  · exact Operation.toCall_of_text h
  · rw [checkTarget_text]
    split_ifs with hs
    · exact iff_of_true rfl hs
    · exact iff_of_false (by rintro ⟨⟩) hs
  · exact fun hs => UncheckedCall.pack_of_not_isAddress hs amount data

/-! ### Behind the checks -/

/-- The bytes of a checked target can be read exactly if it is an address and nothing else. -/
theorem exists_bytes_of_checkTarget_iff :
    (∃ target bs, checkTarget (.text s) = .ok target ∧ bytesOfHex target = .ok bs)
      ↔ IsAddressText s := by
  rw [isAddressText_iff]
  constructor
  · rintro ⟨target, bs, hcheck, hbytes⟩
    rw [checkTarget_text] at hcheck
    split_ifs at hcheck with hs
    obtain rfl := Except.ok.inj hcheck
    exact ((bytesOfHex_eq_ok_iff hs).mp hbytes).1
  · intro hplain
    have hs := isAddress_of_isPlainAddress hplain
    exact ⟨s, _, if_pos hs, (bytesOfHex_eq_ok_iff hs).mpr ⟨hplain, rfl⟩⟩

/-- A call whose amount and data can be read is packed alone exactly if its target is an address
and nothing else. -/
theorem UncheckedCall.exists_pack_iff {amount data : Value} {n : Nat} {bs : List UInt8}
    (hamount : unsignedWord "value" amount = .ok n) (hdata : hexBytes "calldata" data = .ok bs) :
    (∃ payload, UncheckedCall.pack ⟨.text s, amount, data⟩ = .ok payload) ↔ IsAddressText s := by
  rw [← exists_bytes_of_checkTarget_iff]
  constructor
  · rintro ⟨payload, h⟩
    rw [UncheckedCall.pack, Outcome.map_eq_ok_iff, UncheckedCall.packBytes] at h
    obtain ⟨_, h, -⟩ := h
    obtain ⟨target, hcheck, h⟩ := Outcome.bind_eq_ok_iff.mp h
    obtain ⟨_, -, h⟩ := Outcome.bind_eq_ok_iff.mp h
    obtain ⟨targetBytes, hbytes, -⟩ := Outcome.bind_eq_ok_iff.mp h
    exact ⟨target, targetBytes, hcheck, hbytes⟩
  · rintro ⟨target, targetBytes, hcheck, hbytes⟩
    have hpacked : UncheckedCall.packBytes ⟨.text s, amount, data⟩
        = .ok (targetBytes ++ Abi.word n ++ bs) := by
      simp only [UncheckedCall.packBytes, hcheck, hdata, hbytes, hamount, Outcome.ok_bind]
      rfl
    exact ⟨_, by rw [UncheckedCall.pack, hpacked]; rfl⟩

section

variable {c : Context}

/-- What an operation has formed is packed alone exactly if its target is an address. -/
theorem Operation.exists_pack_iff {op : Operation} {call : Call} (h : op.toCall c = .ok call)
    (hdata : Hex.ArePairs (Hex.unmarked call.data.toList)) :
    (∃ payload, call.unchecked.pack = .ok payload) ↔ IsAddressText call.target := by
  have hamount := op.lt_of_resolveAmount (op.parts_of_toCall h).2.1
  exact UncheckedCall.exists_pack_iff (unsignedWord_of_lt hamount "value")
    (hexBytes_eq_ok_iff.mpr ⟨hdata, rfl⟩)

/-- What some operations have formed is packed in a batch exactly if all targets are addresses. -/
theorem Operation.exists_packBatch_iff {ops : List Operation} {calls : List Call}
    (h : (ops.mapM fun op => op.toCall c) = .ok calls)
    (hdata : ∀ call ∈ calls, Hex.ArePairs (Hex.unmarked call.data.toList))
    (hfits : FitsWords calls) :
    (∃ payload, packBatch (calls.map Call.unchecked) = .ok payload)
      ↔ ∀ call ∈ calls, IsAddressText call.target := by
  -- What an operation has formed has passed its checks, so only the line break is left to fail on.
  have hbuilt : ∀ call ∈ calls, isAddress call.target = true ∧ call.amount < 2 ^ 256 := by
    intro call hcall
    obtain ⟨op, -, hop⟩ := Outcome.exists_of_mem_of_mapM h hcall
    exact ⟨(op.of_toCall hop).1, op.lt_of_resolveAmount (op.parts_of_toCall hop).2.1⟩
  have hpack : ∀ payload, packBatch (calls.map Call.unchecked) = .ok payload ↔
      ((∀ call ∈ calls, call.WellFormed) ∧ FitsWords calls)
        ∧ Hex.ofBytes (batchBytes calls) = payload :=
    fun payload => packBatch_eq_ok_iff fun call hcall => (hbuilt call hcall).1
  constructor
  · rintro ⟨payload, hpayload⟩ call hcall
    exact isAddressText_iff.mpr (((hpack payload).mp hpayload).1.1 call hcall).target
  · intro htargets
    refine ⟨_, (hpack _).mpr ⟨⟨fun call hcall => ?_, hfits⟩, rfl⟩⟩
    exact ⟨isAddressText_iff.mp (htargets call hcall), (hbuilt call hcall).2, hdata call hcall⟩

end

/-- What the checks accept is what passes for an address. -/
theorem addressChecks_iff {s : String} {accepted : Prop} :
    AddressChecks s accepted ↔ (PassesForAddress s ↔ accepted) := by
  have hpasses := addressChecks s
  constructor
  · exact fun h => hpasses.input.symm.trans h.input
  · exact fun h => propext h ▸ hpasses

/-- A line break is a character that no address has. -/
theorem not_isAddressText_of_newline (t : String) : ¬ IsAddressText (t ++ "\n") := by
  intro h
  refine newline_not_mem_of_isPlainAddress (isAddressText_iff.mp h) ?_
  rw [String.toList_append]
  exact List.mem_append_right _ List.mem_cons_self

/-- The five checks accept the same texts, namely addresses with or without a line break behind
them; so they are right about a text exactly if it is no address with a line break behind it.
Packing needs an address and nothing else: of the targets that have passed the check of an
operation, those with a line break fail in both kinds of payload, and no other does. -/
theorem addressChecks_agree (s : String) :
    AddressChecks s (PassesForAddress s)
    ∧ (AddressChecks s (IsAddressText s) ↔ ¬ ∃ t, s = t ++ "\n" ∧ IsAddressText t)
    ∧ (∀ (amount data : Value) (n : Nat) (bs : List UInt8),
      unsignedWord "value" amount = .ok n → hexBytes "calldata" data = .ok bs →
      ((∃ payload, UncheckedCall.pack ⟨.text s, amount, data⟩ = .ok payload) ↔ IsAddressText s))
    ∧ (∀ (op : Operation) (c : Context) (call : Call), op.toCall c = .ok call →
      call.target = s → Hex.ArePairs (Hex.unmarked call.data.toList) →
      ((∃ payload, call.unchecked.pack = .ok payload) ↔ IsAddressText s))
    ∧ ∀ (ops : List Operation) (c : Context) (calls : List Call),
      (ops.mapM fun op => op.toCall c) = .ok calls →
      (∀ call ∈ calls, Hex.ArePairs (Hex.unmarked call.data.toList)) → FitsWords calls →
      ((∃ payload, packBatch (calls.map Call.unchecked) = .ok payload)
        ↔ ∀ call ∈ calls, IsAddressText call.target) := by
  refine ⟨addressChecks s, ?_, fun amount data n bs => UncheckedCall.exists_pack_iff, ?_,
    fun ops c calls => Operation.exists_packBatch_iff⟩
  · rw [addressChecks_iff, PassesForAddress]
    constructor
    · rintro h ⟨t, rfl, ht⟩
      exact not_isAddressText_of_newline t (h.mp (.inr ⟨t, rfl, ht⟩))
    · exact fun h => or_iff_left h
  · -- The target that has been checked is the one of the call.
    rintro op c call hcall rfl
    exact op.exists_pack_iff hcall

/-- An operation on an address with a line break behind it. -/
def brokenTransfer : Operation :=
  { target := "0x00000000000000000000000000000000000000aa\n", calldata := some "0x" }

/-- The call that this operation forms. -/
def brokenCall : Call := ⟨"0x00000000000000000000000000000000000000aa\n", 0, "0x"⟩

theorem toCall_brokenTransfer : brokenTransfer.toCall emptyContext = .ok brokenCall := by cbv

theorem not_isAddressText_brokenCall : ¬ IsAddressText brokenCall.target := by decide

/-- The line break passes all checks, and then the call is packed neither alone nor in a batch. -/
theorem addressChecks_agree_brokenCall :
    AddressChecks brokenCall.target True
    ∧ (¬ ∃ payload, brokenCall.unchecked.pack = .ok payload)
    ∧ (¬ ∃ payload, packBatch [brokenCall.unchecked] = .ok payload) := by
  obtain ⟨hchecks, -, -, hsingle, hbatch⟩ := addressChecks_agree brokenCall.target
  have hpasses : PassesForAddress brokenCall.target ↔ True := by
    rw [iff_true]
    decide
  have hdata : Hex.ArePairs (Hex.unmarked brokenCall.data.toList) := by decide
  have hcalls : ([brokenTransfer].mapM fun op => op.toCall emptyContext) = .ok [brokenCall] := by
    cbv
  have hfits : FitsWords [brokenCall] := by decide
  refine ⟨?_, ?_, ?_⟩
  · rw [← hpasses]
    exact hchecks
  · rw [hsingle brokenTransfer emptyContext brokenCall toCall_brokenTransfer rfl hdata]
    exact not_isAddressText_brokenCall
  · have hpack := hbatch [brokenTransfer] emptyContext [brokenCall] hcalls
      (fun call hcall => List.mem_singleton.mp hcall ▸ hdata) hfits
    intro hpacked
    exact not_isAddressText_brokenCall (hpack.mp hpacked brokenCall (List.mem_singleton_self _))

/-- The checks do not accept addresses alone, and a target that they let through fails later. -/
theorem lineBreak_passes_addressChecks :
    ¬ AddressChecks brokenCall.target (IsAddressText brokenCall.target)
    ∧ brokenTransfer.toCall emptyContext = .ok brokenCall
    ∧ brokenCall.unchecked.pack = .error (.fault (.hex .oddLength)) := by
  refine ⟨fun h => ?_, by cbv, by cbv⟩
  have haccepted : isAddress brokenCall.target = true := by decide
  exact not_isAddressText_brokenCall
    ((h.allowed { address := brokenCall.target } rfl).mp haccepted)

end Workflow
