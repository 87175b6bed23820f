import Mathlib
import Workflow.Call.Batch
import Workflow.Proofs.Abi.Encodings
import Workflow.Proofs.Call.Bytes

/-!
# Batch payloads are read back

A batch payload is a word with the offset 32, the number of calls, one offset for each call, and
then the rows of the calls (`batchBytes`).  A row is the target, the amount, the offset of the data
and the data behind their length (`Call.rowBytes`); its size depends on the size of the data alone.

Packing goes well exactly for calls whose parts have bytes and whose offsets and lengths fit into
words, and then gives these bytes (`packBatch_eq_ok_iff_batchable`); a target may have its digits
behind a mark of either case or without one.  Of calls with checked targets these are the
well-formed ones (`packBatch_eq_ok_iff`).  The reader follows the offsets of the outer array to
the rows, and in each row the offset to the data; it finds every part where it was put
(`batchCalls_batchBytes`).  `batch_round_trip` puts the two directions together.
-/

namespace Workflow

open Abi

/-! ### Layout -/

/-- The codec of one call. -/
def rowCodec : Codec := .tuple [.address, .uint 256, .bytes]

theorem codecsOfTexts_batchType : codecsOfTexts [batchType] = .ok [.openArray rowCodec] := by
  cbv

/-- Where the data of a call stand in its row. -/
def dataOffset : Nat := 96

/-- The row of a call. -/
def Call.rowBytes (call : Call) : List UInt8 :=
  List.replicate 12 0 ++ Hex.bytesIn call.target ++
    (word call.amount ++ (word dataOffset ++
      (word (Hex.bytesIn call.data).length ++ padRight (Hex.bytesIn call.data))))

/-- The size of the row of a call: four words and the data, filled up to whole words. -/
def Call.rowSize (call : Call) : Nat := 128 + ceil32 call.dataSize

/-- The offsets of the rows of some calls, behind a word for each of them. -/
def rowOffsets (calls : List Call) : List Nat :=
  offsetsFrom (32 * calls.length) (calls.map Call.rowSize)

/-- The payload of some calls as bytes. -/
def batchBytes (calls : List Call) : List UInt8 :=
  word 32 ++ (word calls.length ++
    ((rowOffsets calls).flatMap word ++ (calls.map Call.rowBytes).flatten))

/-- Whether words hold all offsets and lengths in the payload of some calls. -/
structure FitsWords (calls : List Call) : Prop where
  /-- The offsets of the rows. -/
  offsets : ∀ offset ∈ rowOffsets calls, offset < 2 ^ 256
  /-- The lengths of the data. -/
  data : ∀ call ∈ calls, call.dataSize < 2 ^ 256

theorem fitsWords_iff (calls : List Call) :
    FitsWords calls ↔ (∀ offset ∈ rowOffsets calls, offset < 2 ^ 256)
      ∧ ∀ call ∈ calls, call.dataSize < 2 ^ 256 :=
  ⟨fun h => ⟨h.offsets, h.data⟩, fun h => ⟨h.1, h.2⟩⟩

instance FitsWords.decidable (calls : List Call) : Decidable (FitsWords calls) :=
  decidable_of_iff _ (fitsWords_iff calls).symm

theorem Call.length_rowBytes {call : Call} (h : call.Batchable) :
    call.rowBytes.length = call.rowSize := by
  rw [Call.rowBytes, Call.rowSize, List.length_append, List.length_append, List.length_append,
    List.length_append, List.length_append, List.length_replicate, length_padRight, length_word,
    length_word, length_word, h.target.length_bytesIn,
    Call.length_bytesIn_data h]
  omega

theorem map_length_rowBytes {calls : List Call} (h : ∀ call ∈ calls, call.Batchable) :
    (calls.map Call.rowBytes).map List.length = calls.map Call.rowSize := by
  rw [List.map_map]
  exact List.map_congr_left fun call hc => Call.length_rowBytes (h call hc)

/-- With the first offset, a word holds the number of calls as well. -/
theorem FitsWords.length_lt {calls : List Call} (h : FitsWords calls) :
    calls.length < 2 ^ 256 := by
  cases calls with
  | nil => exact Nat.two_pow_pos 256
  | cons call calls =>
    have hfirst := h.offsets (32 * (call :: calls).length) List.mem_cons_self
    omega

/-! ### Writing -/

/-- The row of a call as a value. -/
def Call.rowValue (call : Call) : Value :=
  .tuple [.text (Text.lower call.target), .int call.amount, .bytes (Hex.bytesIn call.data)]

theorem row_unchecked_eq_ok_iff {call : Call} {v : Value} :
    call.unchecked.row = .ok v ↔
      (call.amount < 2 ^ 256 ∧ Hex.ArePairs (Hex.unmarked call.data.toList))
        ∧ call.rowValue = v := by
  rw [UncheckedCall.row, Outcome.bind_eq_ok_iff]
  constructor
  · rintro ⟨target, htarget, h⟩
    obtain ⟨amount, hamount, h⟩ := Outcome.bind_eq_ok_iff.mp h
    obtain ⟨data, hdata, h⟩ := Outcome.bind_eq_ok_iff.mp h
    obtain rfl := Except.ok.inj htarget
    obtain ⟨hint, hlt⟩ := unsignedWord_eq_ok_iff.mp hamount
    obtain rfl : call.amount = amount := Int.ofNat_inj.mp (Except.ok.inj hint)
    obtain ⟨hpairs, rfl⟩ := hexBytes_eq_ok_iff.mp hdata
    exact ⟨⟨hlt, hpairs⟩, Except.ok.inj h⟩
  · rintro ⟨⟨hlt, hpairs⟩, rfl⟩
    have hamount : unsignedWord "value" (.int call.amount) = .ok call.amount :=
      unsignedWord_eq_ok_iff.mpr ⟨rfl, hlt⟩
    have hdata : hexBytes "calldata" (.text call.data) = .ok (Hex.bytesIn call.data) :=
      hexBytes_eq_ok_iff.mpr ⟨hpairs, rfl⟩
    refine ⟨.text (Text.lower call.target), rfl, ?_⟩
    exact Outcome.bind_eq_ok_iff.mpr ⟨_, hamount, Outcome.bind_eq_ok_iff.mpr ⟨_, hdata, rfl⟩⟩

/-- A target is encoded by the bytes of its digits, whatever its mark and case. -/
theorem addressBytes?_lower_eq_some_iff {s : String} {bs : List UInt8} :
    addressBytes? (.text (Text.lower s)) = some bs ↔ HasAddressDigits s ∧ Hex.bytesIn s = bs := by
  rw [addressBytes?_text_eq_some_iff, hasAddressDigits_lower_iff]
  exact and_congr_right fun h => by rw [bytesIn_lower h]

/-- The row of a call is written exactly if its target has the digits of an address and a word
holds the length of its data. -/
theorem encode_rowValue_eq_ok_iff {call : Call} (hamount : call.amount < 2 ^ 256)
    {part : List UInt8} :
    rowCodec.encode call.rowValue = .ok part ↔
      (HasAddressDigits call.target ∧ (Hex.bytesIn call.data).length < 2 ^ 256)
        ∧ call.rowBytes = part := by
  -- A row is an address and an amount, a word each, and bytes, to which a third word points.
  have hrow : rowCodec.encode call.rowValue
      = (encodeEach [.address, .uint 256, .bytes] [.text (Text.lower call.target),
          .int call.amount, .bytes (Hex.bytesIn call.data)]).bind assemble := rfl
  have hassemble : ∀ bs data : List UInt8, bs.length = 20 →
      assemble [(false, List.replicate 12 0 ++ bs), (false, word call.amount), (true, data)]
        = .ok (List.replicate 12 0 ++ bs ++ (word call.amount ++ (word dataOffset ++ data))) := by
    intro bs data hbs
    apply assemble_words_dynamic
    · rw [List.length_append, List.length_replicate, hbs]
    · exact length_word call.amount
  rw [hrow]
  constructor
  · intro h
    obtain ⟨parts, hparts, h⟩ := Outcome.bind_eq_ok_iff.mp h
    obtain ⟨first, behind, hfirst, hbehind, rfl⟩ := encodeEach_cons_eq_ok_iff.mp hparts
    obtain ⟨second, last, hsecond, hlast, rfl⟩ := encodeEach_cons_eq_ok_iff.mp hbehind
    obtain ⟨third, none, hthird, hnone, rfl⟩ := encodeEach_cons_eq_ok_iff.mp hlast
    obtain rfl := Except.ok.inj hnone
    obtain ⟨bs, hbs, rfl⟩ := encode_address_eq_ok_iff.mp hfirst
    obtain ⟨hdigits, rfl⟩ := addressBytes?_lower_eq_some_iff.mp hbs
    obtain rfl := Except.ok.inj ((encode_uint_of_lt hamount).symm.trans hsecond)
    obtain ⟨hlt, rfl⟩ := encode_bytes_eq_ok_iff.mp hthird
    have hpart := (hassemble _ _ hdigits.length_bytesIn).symm.trans h
    exact ⟨⟨hdigits, hlt⟩, Except.ok.inj hpart⟩
  · rintro ⟨⟨hdigits, hlt⟩, rfl⟩
    have hfirst : Codec.address.encode (.text (Text.lower call.target)) = _ :=
      encode_address_eq_ok_iff.mpr
        ⟨_, addressBytes?_lower_eq_some_iff.mpr ⟨hdigits, rfl⟩, rfl⟩
    have hthird := encode_bytes_eq_ok_iff.mpr ⟨hlt, rfl⟩
    refine Outcome.bind_eq_ok_iff.mpr ⟨_, encodeEach_cons_eq_ok_iff.mpr
      ⟨_, _, hfirst, encodeEach_cons_eq_ok_iff.mpr ⟨_, _, encode_uint_of_lt hamount,
        encodeEach_cons_eq_ok_iff.mpr ⟨_, _, hthird, rfl, rfl⟩, rfl⟩, rfl⟩, ?_⟩
    exact hassemble _ _ hdigits.length_bytesIn

/-- An array of parts of varying length is the number of parts, their offsets and the parts. -/
theorem encode_dynamicArray_eq_ok_iff {item : Codec} (hitem : item.isDynamic = true)
    {vs : List Value} {bs : List UInt8} :
    (Codec.openArray item).encode (.list vs) = .ok bs ↔
      ∃ parts, vs.mapM item.encode = .ok parts ∧ vs.length < 2 ^ 256
        ∧ (∀ o ∈ offsetsFrom (32 * parts.length) (parts.map List.length), o < 2 ^ 256)
        ∧ word vs.length ++ ((offsetsFrom (32 * parts.length)
            (parts.map List.length)).flatMap word ++ parts.flatten) = bs := by
  have hparts : ∀ parts, itemParts item parts = dynamicParts parts := fun parts => by
    rw [itemParts, hitem, dynamicParts]
  rw [encode_openArray_eq_ok_iff]
  constructor
  · rintro ⟨_, parts, rest, hvs, hall, hlt, hrest, rfl⟩
    obtain rfl := Option.some.inj hvs
    rw [hparts] at hrest
    obtain ⟨hoffsets, rfl⟩ := assemble_dynamicParts_eq_ok_iff.mp hrest
    exact ⟨parts, hall, hlt, hoffsets, rfl⟩
  · rintro ⟨parts, hall, hlt, hoffsets, rfl⟩
    refine ⟨vs, parts, _, rfl, hall, hlt, ?_, rfl⟩
    rw [hparts]
    exact assemble_dynamicParts_eq_ok_iff.mpr ⟨hoffsets, rfl⟩

theorem encode_batchType_eq_ok_iff {rows : List Value} {bs : List UInt8} :
    Abi.encode [batchType] [.list rows] = .ok bs ↔
      ∃ array, (Codec.openArray rowCodec).encode (.list rows) = .ok array
        ∧ word 32 ++ array = bs := by
  have hone : ∀ array : List UInt8, assemble (dynamicParts [array]) = .ok (word 32 ++ array) := by
    intro array
    have hoffsets : offsetsFrom (32 * [array].length) ([array].map List.length) = [32] := rfl
    rw [assemble_dynamicParts_eq_ok_iff, hoffsets, List.flatMap_singleton, List.flatten_singleton]
    exact ⟨fun o ho => by rw [List.mem_singleton.mp ho]; norm_num, rfl⟩
  rw [encode_eq_of_codecsOfTexts codecsOfTexts_batchType, Outcome.mapError_eq_ok_iff]
  constructor
  · intro h
    obtain ⟨parts, hparts, h⟩ := Outcome.bind_eq_ok_iff.mp h
    obtain ⟨array, none, harray, hnone, rfl⟩ := encodeEach_cons_eq_ok_iff.mp hparts
    obtain rfl := Except.ok.inj hnone
    exact ⟨array, harray, Except.ok.inj ((hone array).symm.trans h)⟩
  · rintro ⟨array, harray, rfl⟩
    exact Outcome.bind_eq_ok_iff.mpr
      ⟨_, encodeEach_cons_eq_ok_iff.mpr ⟨array, [], harray, rfl, rfl⟩, hone array⟩

theorem mapM_row_eq_ok_iff {calls : List Call} {rows : List Value} :
    (calls.map Call.unchecked).mapM UncheckedCall.row = .ok rows ↔
      (∀ call ∈ calls, call.amount < 2 ^ 256 ∧ Hex.ArePairs (Hex.unmarked call.data.toList))
        ∧ calls.map Call.rowValue = rows := by
  rw [List.mapM_map, Function.comp_def]
  exact Outcome.mapM_eq_ok_iff_map fun call _ v => row_unchecked_eq_ok_iff

theorem mapM_encode_eq_ok_iff {calls : List Call} {parts : List (List UInt8)}
    (h : ∀ call ∈ calls, call.amount < 2 ^ 256) :
    (calls.map Call.rowValue).mapM rowCodec.encode = .ok parts ↔
      (∀ call ∈ calls, HasAddressDigits call.target ∧ (Hex.bytesIn call.data).length < 2 ^ 256)
        ∧ calls.map Call.rowBytes = parts := by
  rw [List.mapM_map, Function.comp_def]
  exact Outcome.mapM_eq_ok_iff_map fun call hc part => encode_rowValue_eq_ok_iff (h call hc)

theorem packBatch_eq_ok_iff_encode {calls : List UncheckedCall} {payload : String} :
    packBatch calls = .ok payload ↔
      ∃ rows, calls.mapM UncheckedCall.row = .ok rows
        ∧ ∃ bs, Abi.encode [batchType] [.list rows] = .ok bs ∧ Hex.ofBytes bs = payload := by
  rw [packBatch, Outcome.bind_eq_ok_iff]
  refine exists_congr fun rows => and_congr_right fun _ => ?_
  cases Abi.encode [batchType] [.list rows] with
  | error e => exact ⟨nofun, fun ⟨_, h, _⟩ => nomatch h⟩
  | ok bs =>
    exact ⟨fun h => ⟨bs, rfl, Except.ok.inj h⟩,
      fun ⟨_, hbs, h⟩ => congrArg Except.ok (Except.ok.inj hbs ▸ h)⟩

/-- Calls are packed exactly if each of them has bytes and words hold all offsets and lengths, and
the payload is the one laid out in `batchBytes`. -/
theorem packBatch_eq_ok_iff_batchable {calls : List Call} {payload : String} :
    packBatch (calls.map Call.unchecked) = .ok payload ↔
      ((∀ call ∈ calls, call.Batchable) ∧ FitsWords calls)
        ∧ Hex.ofBytes (batchBytes calls) = payload := by
  rw [packBatch_eq_ok_iff_encode]
  constructor
  · -- The rows say what the amounts and the data are, and the encoding what the targets are.
    rintro ⟨rows, hrows, bs, hbs, rfl⟩
    obtain ⟨hcalls, rfl⟩ := mapM_row_eq_ok_iff.mp hrows
    obtain ⟨array, harray, rfl⟩ := encode_batchType_eq_ok_iff.mp hbs
    obtain ⟨parts, hparts, -, hoffsets, rfl⟩ := (encode_dynamicArray_eq_ok_iff rfl).mp harray
    obtain ⟨hencoded, rfl⟩ :=
      (mapM_encode_eq_ok_iff fun call hc => (hcalls call hc).1).mp hparts
    have hwell : ∀ call ∈ calls, call.Batchable := fun call hc =>
      ⟨(hencoded call hc).1, (hcalls call hc).1, (hcalls call hc).2⟩
    rw [map_length_rowBytes hwell, List.length_map] at hoffsets ⊢
    rw [List.length_map]
    refine ⟨⟨hwell, ⟨hoffsets, fun call hc => ?_⟩⟩, rfl⟩
    rw [← Call.length_bytesIn_data (hwell call hc)]
    exact (hencoded call hc).2
  · rintro ⟨⟨hwell, hfits⟩, rfl⟩
    have hrows := mapM_row_eq_ok_iff.mpr
      ⟨fun call hc => ⟨(hwell call hc).amount, (hwell call hc).data⟩, rfl⟩
    have hparts := (mapM_encode_eq_ok_iff fun call hc => (hwell call hc).amount).mpr
      ⟨fun call hc => ⟨(hwell call hc).target, ?_⟩, rfl⟩
    · refine ⟨_, hrows, _, encode_batchType_eq_ok_iff.mpr
        ⟨_, (encode_dynamicArray_eq_ok_iff rfl).mpr ⟨_, hparts, ?_, ?_, rfl⟩, rfl⟩, ?_⟩
      · rw [List.length_map]
        exact hfits.length_lt
      · rw [List.length_map, map_length_rowBytes hwell]
        exact hfits.offsets
      · rw [List.length_map, List.length_map, map_length_rowBytes hwell]
        rfl
    · rw [Call.length_bytesIn_data (hwell call hc)]
      exact hfits.data call hc

/-- Calls with addresses are packed exactly if they are well-formed and words hold all offsets and
lengths. -/
theorem packBatch_eq_ok_iff {calls : List Call} {payload : String}
    (htargets : ∀ call ∈ calls, isAddress call.target = true) :
    packBatch (calls.map Call.unchecked) = .ok payload ↔
      ((∀ call ∈ calls, call.WellFormed) ∧ FitsWords calls)
        ∧ Hex.ofBytes (batchBytes calls) = payload := by
  have hcalls : (∀ call ∈ calls, call.Batchable) ↔ ∀ call ∈ calls, call.WellFormed :=
    forall₂_congr fun call hc => Call.batchable_iff_wellFormed (htargets call hc)
  rw [packBatch_eq_ok_iff_batchable, hcalls]

/-! ### Reading -/

theorem rowAt_of_standsAt {payload : List UInt8} {position : Nat} {call : Call}
    (hwell : call.Batchable) (hdata : call.dataSize < 2 ^ 256)
    (h : StandsAt payload position call.rowBytes) : rowAt payload position = .ok call.written := by
  have htarget := hwell.target.length_bytesIn
  have hfront : (List.replicate 12 (0 : UInt8) ++ Hex.bytesIn call.target).length = 32 := by
    rw [List.length_append, List.length_replicate, htarget]
  -- The target, the amount, the offset and the data stand one behind the other.
  obtain ⟨haddress, hrest⟩ := standsAt_append.mp h
  rw [hfront, standsAt_append, length_word] at hrest
  obtain ⟨hamount, hrest⟩ := hrest
  rw [standsAt_append, length_word] at hrest
  obtain ⟨hoffset, hbytes⟩ := hrest
  have hsize : (Hex.bytesIn call.data).length < 2 ^ 256 := by
    rw [Call.length_bytesIn_data hwell]
    exact hdata
  have hinside : position + dataOffset < payload.length := by
    have hle := (standsAt_append.mp hbytes).1.length_le
    rw [length_word] at hle
    rw [dataOffset]
    omega
  have hposition : offsetAt payload .tuple position rowEntries (position + 64)
      = .ok (position + dataOffset) :=
    offsetAt_of_standsAt hoffset (by norm_num [dataOffset]) (by decide) hinside
  have hread := bytesAt_of_standsAt hbytes hsize
  rw [rowAt]
  refine Outcome.bind_eq_ok_iff.mpr ⟨_, addressAt_of_standsAt haddress htarget, ?_⟩
  refine Outcome.bind_eq_ok_iff.mpr ⟨_, numberAt_of_standsAt hamount hwell.amount, ?_⟩
  refine Outcome.bind_eq_ok_iff.mpr ⟨_, hposition, ?_⟩
  exact Outcome.bind_eq_ok_iff.mpr ⟨_, hread, rfl⟩

theorem length_rowOffsets (calls : List Call) : (rowOffsets calls).length = calls.length := by
  rw [rowOffsets, length_offsetsFrom, List.length_map]

theorem Call.rowBytes_ne_nil (call : Call) : call.rowBytes ≠ [] := by
  intro h
  have hlen := congrArg List.length h
  rw [Call.rowBytes, List.length_append, List.length_append, List.length_replicate,
    List.length_nil] at hlen
  omega

/-- Where the rows of some calls stand, the calls are read one by one. -/
theorem mapM_rowAt_of_standsAt {payload : List UInt8} {positions : List Nat} {calls : List Call}
    (hwell : ∀ call ∈ calls, call.Batchable) (hdata : ∀ call ∈ calls, call.dataSize < 2 ^ 256)
    (h : List.Forall₂ (StandsAt payload) positions (calls.map Call.rowBytes)) :
    positions.mapM (rowAt payload) = .ok (calls.map Call.written) := by
  rw [Outcome.mapM_eq_ok_iff, List.forall₂_map_right_iff]
  have hrows := List.forall₂_map_right_iff.mp h
  have hread : List.Forall₂ (fun call position =>
      (call.Batchable ∧ call.dataSize < 2 ^ 256) ∧ StandsAt payload position call.rowBytes)
      calls positions :=
    (List.forall₂_and_left calls positions).mpr
      ⟨fun call hc => ⟨hwell call hc, hdata call hc⟩, hrows.flip⟩
  exact (hread.imp fun call position hcall =>
    rowAt_of_standsAt hcall.1.1 hcall.1.2 hcall.2).flip

/-- The reader finds every row where the writer put it. -/
theorem batchCalls_batchBytes {calls : List Call} (hwell : ∀ call ∈ calls, call.Batchable)
    (hfits : FitsWords calls) : batchCalls (batchBytes calls) = .ok (calls.map Call.written) := by
  obtain ⟨hstart, hrest⟩ := standsAt_append.mp (standsAt_zero (batchBytes calls))
  rw [length_word, standsAt_append, length_word] at hrest
  obtain ⟨hcount, hrest⟩ := hrest
  rw [standsAt_append, length_flatMap_word, length_rowOffsets] at hrest
  obtain ⟨hoffsets, hrows⟩ := hrest
  -- The outer offset leads behind the first word, where the number of calls stands.
  have harray : offsetAt (batchBytes calls) .tuple 0 1 0 = .ok 32 := by
    have hle := hcount.length_le
    rw [length_word] at hle
    exact offsetAt_of_standsAt hstart (by norm_num) (by decide) (by omega)
  -- The rows stand behind their offsets, which count from behind the number of calls.
  have hpositions : (rowOffsets calls).map (32 + 32 + ·)
      = offsetsFrom (32 + 32 + 32 * calls.length) ((calls.map Call.rowBytes).map List.length) := by
    rw [rowOffsets, map_add_offsetsFrom, map_length_rowBytes hwell]
  have hinside : ∀ o ∈ rowOffsets calls,
      o < 2 ^ 256 ∧ 32 * calls.length ≤ o ∧ 32 + 32 + o < (batchBytes calls).length := by
    intro o ho
    have hmem : 32 + 32 + o ∈ (rowOffsets calls).map (32 + 32 + ·) := List.mem_map_of_mem ho
    rw [hpositions] at hmem
    refine ⟨hfits.offsets o ho, le_of_mem_offsetsFrom ho,
      lt_length_of_mem_offsetsFrom hrows (fun row hrow => ?_) hmem⟩
    obtain ⟨call, -, rfl⟩ := List.mem_map.mp hrow
    exact call.rowBytes_ne_nil
  have hread := offsetsAt_of_standsAt hoffsets hinside
  rw [length_rowOffsets, hpositions] at hread
  rw [batchCalls]
  refine Outcome.bind_eq_ok_iff.mpr ⟨_, harray, ?_⟩
  refine Outcome.bind_eq_ok_iff.mpr ⟨_, numberAt_of_standsAt hcount hfits.length_lt, ?_⟩
  refine Outcome.bind_eq_ok_iff.mpr ⟨_, hread, ?_⟩
  exact mapM_rowAt_of_standsAt hwell hfits.data (standsAt_flatten hrows)

/-- What was packed is read back as it is written for its bytes. -/
theorem unpackBatch_of_packBatch_batchable {calls : List Call} {payload : String}
    (h : packBatch (calls.map Call.unchecked) = .ok payload) :
    unpackBatch (.text payload) = .ok (calls.map Call.written) := by
  obtain ⟨⟨hwell, hfits⟩, rfl⟩ := packBatch_eq_ok_iff_batchable.mp h
  rw [unpackBatch]
  refine Outcome.bind_eq_ok_iff.mpr ⟨_, hexBytes_ofBytes payloadLabel (batchBytes calls), ?_⟩
  exact Outcome.mapError_eq_ok_iff.mpr (batchCalls_batchBytes hwell hfits)

/-- What was packed is read back, target and data in lower case. -/
theorem unpackBatch_of_packBatch {calls : List Call} {payload : String}
    (htargets : ∀ call ∈ calls, isAddress call.target = true)
    (h : packBatch (calls.map Call.unchecked) = .ok payload) :
    unpackBatch (.text payload) = .ok (calls.map Call.normal) := by
  obtain ⟨⟨hwell, -⟩, -⟩ := (packBatch_eq_ok_iff htargets).mp h
  rw [Call.map_normal_eq hwell]
  exact unpackBatch_of_packBatch_batchable h

/-- Well-formed calls whose offsets and lengths fit into words have a payload; it is read back as
the same calls in the same order, target and data in lower case and the data marked, so that two
lists of calls with one payload differ at most in case and mark. -/
theorem batch_round_trip (calls : List Call) (hwell : ∀ call ∈ calls, call.WellFormed)
    (hfits : FitsWords calls) :
    ∃ payload, packBatch (calls.map Call.unchecked) = .ok payload
      ∧ unpackBatch (.text payload) = .ok (calls.map Call.normal)
      ∧ ∀ others : List Call, (∀ call ∈ others, call.WellFormed) →
        packBatch (others.map Call.unchecked) = .ok payload →
        others.map Call.normal = calls.map Call.normal := by
  have haddresses : ∀ calls : List Call, (∀ call ∈ calls, call.WellFormed) →
      ∀ call ∈ calls, isAddress call.target = true :=
    fun calls h call hc => isAddress_of_isPlainAddress (h call hc).target
  have hpack := (packBatch_eq_ok_iff (haddresses calls hwell)).mpr ⟨⟨hwell, hfits⟩, rfl⟩
  have hunpack := unpackBatch_of_packBatch (haddresses calls hwell) hpack
  refine ⟨_, hpack, hunpack, fun others hothers hsame => ?_⟩
  have hback := unpackBatch_of_packBatch (haddresses others hothers) hsame
  exact Except.ok.inj (hback.symm.trans hunpack)

/-- Two transfers, one of them in upper case and without a mark on its data. -/
def transfers : List Call :=
  [⟨"0xABCDEF0123456789abcdef0123456789ABCDEF01", 5, "A9059CBB00"⟩,
    ⟨"0x00000000000000000000000000000000000000aa", 0, "0x"⟩]

theorem batch_round_trip_transfers :
    ∃ payload, packBatch (transfers.map Call.unchecked) = .ok payload
      ∧ unpackBatch (.text payload) = .ok
        [⟨"0xabcdef0123456789abcdef0123456789abcdef01", 5, "0xa9059cbb00"⟩,
          ⟨"0x00000000000000000000000000000000000000aa", 0, "0x"⟩] := by
  have hwell : ∀ call ∈ transfers, call.WellFormed := by decide
  have hfits : FitsWords transfers := by decide
  obtain ⟨payload, hpack, hunpack, -⟩ := batch_round_trip transfers hwell hfits
  have hnormal : transfers.map Call.normal =
      [⟨"0xabcdef0123456789abcdef0123456789abcdef01", 5, "0xa9059cbb00"⟩,
        ⟨"0x00000000000000000000000000000000000000aa", 0, "0x"⟩] := by decide
  rw [hnormal] at hunpack
  exact ⟨payload, hpack, hunpack⟩

end Workflow
