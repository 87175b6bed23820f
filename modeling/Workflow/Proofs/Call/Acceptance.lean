import Workflow.Proofs.Call.Single
import Workflow.Proofs.Call.Targets

/-!
# What the two encoders accept

A call can be offered to the encoders with any texts and any integer.  Both want an amount that fits
into a word and data that are digit pairs.  They differ in the target.  Packing alone checks that
it is an address (`RawCall.exists_pack_iff`).  A batch puts the target in lower case and leaves the
check to the encoding, which takes forty digits behind a mark of either case or without one
(`exists_packBatch_raw_iff`).

With its digits behind `0x`, a target that the batch takes is an address (`RawCall.marked`).  So a
batch is accepted exactly if each of its calls, marked in this way, is accepted alone, and then it
is read back as these calls are (`packBatch_iff_pack_marked`).
-/

namespace Workflow

/-- A call as it may be offered to an encoder. -/
structure RawCall where
  /-- The target. -/
  target : String
  /-- The amount. -/
  amount : Int
  /-- The call data. -/
  data : String

namespace RawCall

/-- The call as it is handed in. -/
def unchecked (c : RawCall) : UncheckedCall := ⟨.text c.target, .int c.amount, .text c.data⟩

/-- The call with a natural number for its amount. -/
def call (c : RawCall) : Call := ⟨c.target, c.amount.toNat, c.data⟩

/-- The call with the digits of its target behind `0x`. -/
def marked (c : RawCall) : RawCall :=
  { c with target := String.ofList ('0' :: 'x' :: Hex.unmarked c.target.toList) }

variable {c : RawCall}

theorem unchecked_call (h : 0 ≤ c.amount) : c.call.unchecked = c.unchecked := by
  rw [unchecked, call, Call.unchecked, Int.toNat_of_nonneg h]

theorem nonneg_of_unsignedWord {n : Nat} (h : unsignedWord "value" (.int c.amount) = .ok n) :
    0 ≤ c.amount := by
  have hn := Except.ok.inj (unsignedWord_eq_ok_iff.mp h).1
  omega

/-! ### Alone -/

/-- A call is packed alone exactly if its amount is not negative and it is well-formed. -/
theorem exists_pack_iff :
    (∃ payload, c.unchecked.pack = .ok payload) ↔ 0 ≤ c.amount ∧ c.call.WellFormed := by
  constructor
  · rintro ⟨payload, h⟩
    have hpacked := h
    rw [UncheckedCall.pack, Outcome.map_eq_ok_iff, UncheckedCall.packBytes] at hpacked
    obtain ⟨_, hpacked, -⟩ := hpacked
    -- Of what has been read, the check of the target and the amount are still needed.
    obtain ⟨target, hcheck, hpacked⟩ := Outcome.bind_eq_ok_iff.mp hpacked
    obtain ⟨_, -, hpacked⟩ := Outcome.bind_eq_ok_iff.mp hpacked
    obtain ⟨_, -, hpacked⟩ := Outcome.bind_eq_ok_iff.mp hpacked
    obtain ⟨n, hamount, -⟩ := Outcome.bind_eq_ok_iff.mp hpacked
    have hnonneg := nonneg_of_unsignedWord hamount
    have haddress : isAddress c.target = true := by
      by_contra hnot
      rw [unchecked, checkTarget_text, if_neg hnot] at hcheck
      cases hcheck
    rw [← unchecked_call hnonneg] at h
    exact ⟨hnonneg, ((@Call.pack_eq_ok_iff c.call haddress payload).mp h).1⟩
  · rintro ⟨hnonneg, hwell⟩
    rw [← unchecked_call hnonneg]
    exact ⟨_, hwell.pack_eq⟩

/-- A target that is packed alone starts with its mark. -/
theorem marked_eq {digits : String} (h : c.target = "0x" ++ digits) : c.marked = c := by
  have hlist : c.target.toList = '0' :: 'x' :: digits.toList := by
    rw [h, String.toList_append]
    rfl
  have htarget : String.ofList ('0' :: 'x' :: Hex.unmarked c.target.toList) = c.target := by
    rw [hlist, Hex.unmarked_marked, ← hlist, String.ofList_toList]
  rw [marked, htarget]

theorem exists_mark_of_wellFormed (h : c.call.WellFormed) :
    ∃ digits, c.target = "0x" ++ digits := by
  obtain ⟨digits, hlist, -⟩ := isPlainAddress_iff.mp h.target
  refine ⟨String.ofList digits, ?_⟩
  have htarget : c.target.toList = '0' :: 'x' :: digits := hlist
  rw [← String.toList_inj, htarget, String.toList_append]
  exact congrArg ('0' :: 'x' :: ·) String.toList_ofList.symm

theorem hasAddressDigits_iff_marked :
    HasAddressDigits c.target ↔ isPlainAddress c.marked.target.toList = true := by
  rw [hasAddressDigits_iff, isPlainAddress_iff, marked, String.toList_ofList]
  constructor
  · exact fun ⟨hlen, hpairs⟩ => ⟨_, rfl, hlen, hpairs⟩
  · rintro ⟨digits, hdigits, hlen, hpairs⟩
    obtain rfl := (List.cons.inj (List.cons.inj hdigits).2).2
    exact ⟨hlen, hpairs⟩

theorem batchable_iff_marked : c.call.Batchable ↔ c.marked.call.WellFormed :=
  ⟨fun h => ⟨hasAddressDigits_iff_marked.mp h.target, h.amount, h.data⟩,
    fun h => ⟨hasAddressDigits_iff_marked.mpr h.target, h.amount, h.data⟩⟩

/-- The mark does not change the bytes of a call. -/
theorem written_marked (c : RawCall) : c.marked.call.written = c.call.written := by
  have hbytes : Hex.bytesIn c.marked.target = Hex.bytesIn c.target := by
    rw [Hex.bytesIn, Hex.bytesIn, Hex.toBytes, Hex.toBytes, marked, String.toList_ofList,
      Hex.unmarked_marked]
  rw [Call.written, Call.written]
  exact congrArg (fun bs => Call.mk (Hex.ofBytes bs) _ _) hbytes

/-- The payload of the marked call alone. -/
def markedPayload (c : RawCall) : String :=
  Hex.ofBytes (Hex.bytesIn c.marked.target ++ Abi.word c.amount.toNat ++ Hex.bytesIn c.data)

theorem pack_marked (hnonneg : 0 ≤ c.amount) (h : c.call.Batchable) :
    c.marked.unchecked.pack = .ok c.markedPayload := by
  have hmarked : c.marked.call.unchecked = c.marked.unchecked := unchecked_call hnonneg
  rw [← hmarked]
  exact (batchable_iff_marked.mp h).pack_eq

theorem unpack_markedPayload (hnonneg : 0 ≤ c.amount) (h : c.call.Batchable) :
    Call.unpack (.text c.markedPayload) = .ok c.call.written := by
  have hwell := batchable_iff_marked.mp h
  have hmarked : c.marked.call.unchecked = c.marked.unchecked := unchecked_call hnonneg
  have hpack := pack_marked hnonneg h
  rw [← hmarked] at hpack
  rw [hwell.unpack_of_pack hpack, Call.normal_eq hwell, written_marked]

end RawCall

/-! ### In a batch -/

open RawCall

variable {calls : List RawCall}

theorem nonneg_of_mapM_row {rows : List Value}
    (h : (calls.map RawCall.unchecked).mapM UncheckedCall.row = .ok rows) :
    ∀ c ∈ calls, 0 ≤ c.amount := by
  intro c hc
  obtain ⟨row, hrow⟩ := Outcome.exists_ok_of_mapM h (List.mem_map_of_mem hc)
  obtain ⟨_, -, hrow⟩ := Outcome.bind_eq_ok_iff.mp hrow
  obtain ⟨n, hamount, -⟩ := Outcome.bind_eq_ok_iff.mp hrow
  exact nonneg_of_unsignedWord hamount

theorem map_unchecked_call (h : ∀ c ∈ calls, 0 ≤ c.amount) :
    (calls.map RawCall.call).map Call.unchecked = calls.map RawCall.unchecked := by
  rw [List.map_map]
  exact List.map_congr_left fun c hc => unchecked_call (h c hc)

theorem nonneg_of_packBatch {payload : String}
    (h : packBatch (calls.map RawCall.unchecked) = .ok payload) : ∀ c ∈ calls, 0 ≤ c.amount := by
  obtain ⟨rows, hrows, -⟩ := packBatch_eq_ok_iff_encode.mp h
  exact nonneg_of_mapM_row hrows

/-- Calls are packed in a batch exactly if no amount is negative, each call has bytes, and words
hold all offsets and lengths. -/
theorem exists_packBatch_raw_iff :
    (∃ payload, packBatch (calls.map RawCall.unchecked) = .ok payload) ↔
      (∀ c ∈ calls, 0 ≤ c.amount ∧ c.call.Batchable) ∧ FitsWords (calls.map RawCall.call) := by
  constructor
  · rintro ⟨payload, h⟩
    have hnonneg := nonneg_of_packBatch h
    -- Without negative amounts these are calls as the other lemmas on batches have them.
    rw [← map_unchecked_call hnonneg, packBatch_eq_ok_iff_batchable, List.forall_mem_map] at h
    exact ⟨fun c hc => ⟨hnonneg c hc, h.1.1 c hc⟩, h.1.2⟩
  · rintro ⟨hcalls, hfits⟩
    have hbatchable : ∀ call ∈ calls.map RawCall.call, call.Batchable :=
      List.forall_mem_map.mpr fun c hc => (hcalls c hc).2
    rw [← map_unchecked_call fun c hc => (hcalls c hc).1]
    exact ⟨_, packBatch_eq_ok_iff_batchable.mpr ⟨⟨hbatchable, hfits⟩, rfl⟩⟩

/-- A batch is read back as its calls are written. -/
theorem unpackBatch_of_packBatch_raw {payload : String}
    (h : packBatch (calls.map RawCall.unchecked) = .ok payload) :
    unpackBatch (.text payload) = .ok (calls.map fun c => c.call.written) := by
  rw [← map_unchecked_call (nonneg_of_packBatch h)] at h
  rw [unpackBatch_of_packBatch_batchable h, List.map_map]
  rfl

/-! ### Alone and in a batch -/

/-- A batch is packed exactly if words hold its offsets and lengths and each of its calls, with the
digits of its target behind `0x`, is packed alone; and then the batch is read back as these payloads
are, in order.  Alone, a call is packed exactly if its target starts with `0x` and the marked call
is packed. -/
theorem packBatch_iff_pack_marked (calls : List RawCall) :
    ((∃ payload, packBatch (calls.map RawCall.unchecked) = .ok payload) ↔
      (∀ c ∈ calls, ∃ payload, c.marked.unchecked.pack = .ok payload)
        ∧ FitsWords (calls.map RawCall.call))
    ∧ (∀ payload, packBatch (calls.map RawCall.unchecked) = .ok payload →
      ∃ payloads read, (calls.mapM fun c => c.marked.unchecked.pack) = .ok payloads
        ∧ (payloads.mapM fun single => Call.unpack (.text single)) = .ok read
        ∧ unpackBatch (.text payload) = .ok read)
    ∧ ∀ c ∈ calls, (∃ payload, c.unchecked.pack = .ok payload) ↔
      (∃ digits, c.target = "0x" ++ digits)
        ∧ ∃ payload, c.marked.unchecked.pack = .ok payload := by
  have hmarked : ∀ c : RawCall, (∃ payload, c.marked.unchecked.pack = .ok payload) ↔
      0 ≤ c.amount ∧ c.call.Batchable := by
    intro c
    rw [RawCall.exists_pack_iff, batchable_iff_marked]
    rfl
  have hbatch : (∃ payload, packBatch (calls.map RawCall.unchecked) = .ok payload) ↔
      (∀ c ∈ calls, ∃ payload, c.marked.unchecked.pack = .ok payload)
        ∧ FitsWords (calls.map RawCall.call) := by
    rw [exists_packBatch_raw_iff, forall₂_congr fun c _ => hmarked c]
  refine ⟨hbatch, fun payload h => ?_, fun c _ => ⟨?_, ?_⟩⟩
  · -- The single payloads are those of the marked calls, and are read back one by one.
    have hcalls := (exists_packBatch_raw_iff.mp ⟨payload, h⟩).1
    refine ⟨calls.map markedPayload, calls.map fun c => c.call.written, ?_, ?_,
      unpackBatch_of_packBatch_raw h⟩
    · rw [Outcome.mapM_eq_ok_iff, List.forall₂_map_right_iff, List.forall₂_same]
      exact fun c hc => pack_marked (hcalls c hc).1 (hcalls c hc).2
    · rw [List.mapM_map, Outcome.mapM_eq_ok_iff, List.forall₂_map_right_iff, List.forall₂_same]
      exact fun c hc => unpack_markedPayload (hcalls c hc).1 (hcalls c hc).2
  · intro hpack
    obtain ⟨digits, hdigits⟩ := exists_mark_of_wellFormed (RawCall.exists_pack_iff.mp hpack).2
    exact ⟨⟨digits, hdigits⟩, by rwa [marked_eq hdigits]⟩
  · rintro ⟨⟨digits, hdigits⟩, hpack⟩
    rwa [marked_eq hdigits] at hpack

/-- Two calls that a batch takes, the first with its target in upper case and without a mark. -/
def offered : List RawCall :=
  [⟨"ABCDEF0123456789ABCDEF0123456789ABCDEF01", 5, "A9059CBB00"⟩,
    ⟨"0x00000000000000000000000000000000000000aa", 0, "0x"⟩]

theorem packBatch_iff_pack_marked_offered :
    ∃ payload payloads, packBatch (offered.map RawCall.unchecked) = .ok payload
      ∧ (offered.mapM fun c => c.marked.unchecked.pack) = .ok payloads
      ∧ (payloads.mapM fun single => Call.unpack (.text single)) = .ok
        [⟨"0xabcdef0123456789abcdef0123456789abcdef01", 5, "0xa9059cbb00"⟩,
          ⟨"0x00000000000000000000000000000000000000aa", 0, "0x"⟩]
      ∧ unpackBatch (.text payload) = .ok
        [⟨"0xabcdef0123456789abcdef0123456789abcdef01", 5, "0xa9059cbb00"⟩,
          ⟨"0x00000000000000000000000000000000000000aa", 0, "0x"⟩] := by
  obtain ⟨hbatch, hread, -⟩ := packBatch_iff_pack_marked offered
  have hfits : FitsWords (offered.map RawCall.call) := by decide
  have hmarked : ∀ c ∈ offered, 0 ≤ c.amount ∧ c.marked.call.WellFormed := by decide
  obtain ⟨payload, hpayload⟩ :=
    hbatch.mpr ⟨fun c hc => RawCall.exists_pack_iff.mpr (hmarked c hc), hfits⟩
  obtain ⟨payloads, read, hpack, hsingle, hunpack⟩ := hread payload hpayload
  have hwritten : offered.map (fun c => c.call.written) =
      [⟨"0xabcdef0123456789abcdef0123456789abcdef01", 5, "0xa9059cbb00"⟩,
        ⟨"0x00000000000000000000000000000000000000aa", 0, "0x"⟩] := by decide
  have hraw := unpackBatch_of_packBatch_raw hpayload
  rw [hwritten] at hraw
  obtain rfl := Except.ok.inj (hunpack.symm.trans hraw)
  exact ⟨payload, payloads, hpayload, hpack, hsingle, hunpack⟩

/-- A call whose target has its mark in upper case. -/
def upperMarked : RawCall := ⟨"0X00000000000000000000000000000000000000aa", 0, "0x"⟩

/-- A batch is not packed exactly if each of its calls is packed alone. -/
theorem packBatch_of_upperMarked :
    ¬ ((∃ payload, packBatch ([upperMarked].map RawCall.unchecked) = .ok payload)
      ↔ ∀ c ∈ [upperMarked], ∃ payload, c.unchecked.pack = .ok payload) := by
  have hfits : FitsWords ([upperMarked].map RawCall.call) := by decide
  have hbatchable : 0 ≤ upperMarked.amount ∧ upperMarked.call.Batchable :=
    ⟨by decide, by decide, by decide, by decide⟩
  have hpacked : ∃ payload, packBatch ([upperMarked].map RawCall.unchecked) = .ok payload := by
    refine exists_packBatch_raw_iff.mpr ⟨fun c hc => ?_, hfits⟩
    rw [List.mem_singleton.mp hc]
    exact hbatchable
  have hnot : ¬ upperMarked.call.WellFormed := by decide
  exact fun h => hnot (RawCall.exists_pack_iff.mp
    (h.mp hpacked upperMarked (List.mem_singleton_self upperMarked))).2

end Workflow
