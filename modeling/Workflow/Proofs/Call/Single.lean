import Mathlib.Logic.ExistsUnique
import Workflow.Proofs.Call.Prepared

/-!
# Payloads of single calls

Twenty bytes of target, thirty-two bytes of amount, and the data up to the end: every payload of at
least fifty-two bytes can be cut in this way, and in one way only.  `Call.ofPayload` is the call
that is cut out.  Its parts are written for the bytes they stand for, so it is well-formed
(`wellFormed_ofPayload`), and packing it puts the parts together again (`pack_ofPayload`): the
amount fills its word because thirty-two bytes are the word of the number they denote.

With `Call.unpack_of_pack`, which reads a packed call back, packing and unpacking are inverse to
each other between the calls in normal form and these payloads (`single_payload_bijection`).
-/

namespace Workflow

/-! ### Texts written for bytes -/

theorem Hex.bytesIn_ofBytes (bs : List UInt8) : Hex.bytesIn (Hex.ofBytes bs) = bs := by
  rw [Hex.bytesIn, Hex.toBytes_ofBytes]
  rfl

theorem Hex.arePairs_unmarked_ofBytes (bs : List UInt8) :
    Hex.ArePairs (Hex.unmarked (Hex.ofBytes bs).toList) := by
  rw [Hex.toList_ofBytes, Hex.unmarked_marked]
  exact Hex.arePairs_encode bs

theorem isPlainAddress_ofBytes {bs : List UInt8} (h : bs.length = 20) :
    isPlainAddress (Hex.ofBytes bs).toList = true := by
  have hdigits : (Hex.encode bs).length = 40 := by rw [Hex.length_encode, h]
  exact isPlainAddress_iff.mpr
    ⟨Hex.encode bs, Hex.toList_ofBytes bs, hdigits, Hex.arePairs_encode bs⟩

/-! ### Cutting a payload -/

/-- The call whose parts stand one behind the other in a payload. -/
def Call.ofPayload (payload : List UInt8) : Call :=
  ⟨Hex.ofBytes (payload.take 20), Abi.bigEndianValue ((payload.drop 20).take 32),
    Hex.ofBytes (payload.drop singleHeadSize)⟩

variable {payload : List UInt8}

theorem length_target_of_le (h : singleHeadSize ≤ payload.length) :
    (payload.take 20).length = 20 := by
  unfold singleHeadSize at h
  rw [List.length_take]
  omega

theorem length_amount_of_le (h : singleHeadSize ≤ payload.length) :
    ((payload.drop 20).take 32).length = 32 := by
  unfold singleHeadSize at h
  rw [List.length_take, List.length_drop]
  omega

/-- The three parts are the whole payload. -/
theorem target_append_amount_append_data (payload : List UInt8) :
    payload.take 20 ++ (payload.drop 20).take 32 ++ payload.drop singleHeadSize = payload := by
  have hdata : payload.drop singleHeadSize = (payload.drop 20).drop 32 := by
    rw [List.drop_drop]
    rfl
  rw [hdata, List.append_assoc, List.take_append_drop, List.take_append_drop]

theorem unpackBytes_eq_ok_iff {call : Call} :
    Call.unpackBytes payload = .ok call ↔
      singleHeadSize ≤ payload.length ∧ Call.ofPayload payload = call := by
  rw [Call.unpackBytes]
  split_ifs with hshort
  · constructor
    · intro h
      cases h
    · rintro ⟨hlong, -⟩
      omega
  · rw [Except.ok.injEq]
    exact ⟨fun heq => ⟨by omega, heq⟩, fun heq => heq.2⟩

/-- Texts of digit pairs for at least fifty-two bytes are what a call is read from. -/
theorem Call.unpack_text_eq_ok_iff {text : String} {call : Call} :
    Call.unpack (.text text) = .ok call ↔
      Hex.ArePairs (Hex.unmarked text.toList) ∧ singleHeadSize ≤ (Hex.bytesIn text).length
        ∧ Call.ofPayload (Hex.bytesIn text) = call := by
  rw [Call.unpack, Outcome.bind_eq_ok_iff]
  constructor
  · rintro ⟨bs, hbytes, hread⟩
    obtain ⟨hpairs, rfl⟩ := hexBytes_eq_ok_iff.mp hbytes
    exact ⟨hpairs, unpackBytes_eq_ok_iff.mp hread⟩
  · rintro ⟨hpairs, hread⟩
    exact ⟨_, hexBytes_eq_ok_iff.mpr ⟨hpairs, rfl⟩, unpackBytes_eq_ok_iff.mpr hread⟩

theorem wellFormed_ofPayload (h : singleHeadSize ≤ payload.length) :
    (Call.ofPayload payload).WellFormed where
  target := isPlainAddress_ofBytes (length_target_of_le h)
  amount := Abi.bigEndianValue_lt_of_length (length_amount_of_le h)
  data := Hex.arePairs_unmarked_ofBytes _

theorem normal_ofPayload (h : singleHeadSize ≤ payload.length) :
    (Call.ofPayload payload).normal = Call.ofPayload payload := by
  rw [Call.normal_eq (wellFormed_ofPayload h), Call.ofPayload, Call.written, Hex.bytesIn_ofBytes,
    Hex.bytesIn_ofBytes]

/-! ### There and back -/

theorem Call.WellFormed.pack_eq {call : Call} (h : call.WellFormed) :
    call.unchecked.pack = .ok (Hex.ofBytes (Hex.bytesIn call.target ++ Abi.word call.amount
      ++ Hex.bytesIn call.data)) :=
  (Call.pack_eq_ok_iff (isAddress_of_isPlainAddress h.target)).mpr ⟨h, rfl⟩

theorem Call.WellFormed.unpack_of_pack {call : Call} (h : call.WellFormed) {text : String}
    (hpack : call.unchecked.pack = .ok text) : Call.unpack (.text text) = .ok call.normal :=
  Call.unpack_of_pack (isAddress_of_isPlainAddress h.target) hpack

/-- Packing the call in a payload gives the payload. -/
theorem pack_ofPayload (h : singleHeadSize ≤ payload.length) :
    (Call.ofPayload payload).unchecked.pack = .ok (Hex.ofBytes payload) := by
  have hamount : Abi.word (Abi.bigEndianValue ((payload.drop 20).take 32))
      = (payload.drop 20).take 32 := Abi.word_bigEndianValue (length_amount_of_le h)
  rw [(wellFormed_ofPayload h).pack_eq, Call.ofPayload, Hex.bytesIn_ofBytes, Hex.bytesIn_ofBytes,
    hamount, target_append_amount_append_data]

/-- Calls with one payload differ at most in case and mark. -/
theorem Call.WellFormed.normal_eq_of_pack {a b : Call} (ha : a.WellFormed) (hb : b.WellFormed)
    {text : String} (hpackA : a.unchecked.pack = .ok text) (hpackB : b.unchecked.pack = .ok text) :
    a.normal = b.normal :=
  Except.ok.inj ((ha.unpack_of_pack hpackA).symm.trans (hb.unpack_of_pack hpackB))

/-- Every payload that is long enough belongs to one call in normal form. -/
theorem existsUnique_call_of_payload (h : singleHeadSize ≤ payload.length) :
    ∃! call : Call, (call.WellFormed ∧ call.normal = call)
      ∧ call.unchecked.pack = .ok (Hex.ofBytes payload) := by
  have hwell := wellFormed_ofPayload h
  have hnormal := normal_ofPayload h
  refine ⟨Call.ofPayload payload, ⟨⟨hwell, hnormal⟩, pack_ofPayload h⟩, ?_⟩
  rintro call ⟨⟨hcall, hself⟩, hpack⟩
  -- Both calls are in normal form, so that they have the same one makes them equal.
  have hsame := hcall.normal_eq_of_pack hwell hpack (pack_ofPayload h)
  rw [hself, hnormal] at hsame
  exact hsame

/-- A well-formed call has a payload and is read back from it, target and data in lower case and
the data marked.  Every hexadecimal text of at least fifty-two bytes is read as a call, and packing
this call gives the same bytes.  So calls with one payload differ at most in case and mark, and
every payload of at least fifty-two bytes is that of one call in lower case. -/
theorem single_payload_bijection :
    (∀ call : Call, call.WellFormed →
      ∃ payload, call.unchecked.pack = .ok payload
        ∧ Call.unpack (.text payload) = .ok call.normal)
    ∧ (∀ text : String, Hex.ArePairs (Hex.unmarked text.toList) →
      2 * 52 ≤ (Hex.unmarked text.toList).length →
      ∃ bs call, Hex.toBytes text = .ok bs ∧ Call.unpack (.text text) = .ok call
        ∧ call.unchecked.pack = .ok (Hex.ofBytes bs))
    ∧ (∀ a b : Call, a.WellFormed → b.WellFormed → ∀ payload,
      a.unchecked.pack = .ok payload → b.unchecked.pack = .ok payload → a.normal = b.normal)
    ∧ ∀ bs : List UInt8, 52 ≤ bs.length →
      ∃! call : Call, (call.WellFormed ∧ call.normal = call)
        ∧ call.unchecked.pack = .ok (Hex.ofBytes bs) := by
  refine ⟨fun call hcall => ?_, fun text hpairs hdigits => ?_, fun a b ha hb payload => ?_,
    fun bs hlong => existsUnique_call_of_payload hlong⟩
  · exact ⟨_, hcall.pack_eq, hcall.unpack_of_pack hcall.pack_eq⟩
  · have hlength := Hex.length_bytesIn hpairs
    have hlong : singleHeadSize ≤ (Hex.bytesIn text).length := by
      unfold singleHeadSize
      omega
    have hread := Call.unpack_text_eq_ok_iff.mpr ⟨hpairs, hlong, rfl⟩
    exact ⟨_, _, Hex.toBytes_of_arePairs hpairs, hread, pack_ofPayload hlong⟩
  · exact ha.normal_eq_of_pack hb

/-- A transfer in upper case and without a mark on its data. -/
def mixedCaseTransfer : Call := ⟨"0xABCDEF0123456789abcdef0123456789ABCDEF01", 5, "A9059CBB00"⟩

/-- The same transfer as it is read back. -/
def lowerCaseTransfer : Call := ⟨"0xabcdef0123456789abcdef0123456789abcdef01", 5, "0xa9059cbb00"⟩

theorem single_payload_bijection_transfer :
    (∃ payload, mixedCaseTransfer.unchecked.pack = .ok payload
      ∧ lowerCaseTransfer.unchecked.pack = .ok payload
      ∧ mixedCaseTransfer.normal = lowerCaseTransfer.normal
      ∧ Call.unpack (.text payload) = .ok lowerCaseTransfer)
    ∧ (∃ bs call, Hex.toBytes (String.ofList (List.replicate 106 'F')) = .ok bs
      ∧ Call.unpack (.text (String.ofList (List.replicate 106 'F'))) = .ok call
      ∧ call.unchecked.pack = .ok (Hex.ofBytes bs))
    ∧ ∃! call : Call, (call.WellFormed ∧ call.normal = call)
      ∧ call.unchecked.pack = .ok (Hex.ofBytes (List.replicate 52 0)) := by
  obtain ⟨hround, hread, hshared, hunique⟩ := single_payload_bijection
  have hmixed : mixedCaseTransfer.WellFormed := by decide
  have hlower : lowerCaseTransfer.WellFormed := by decide
  have hnormal : mixedCaseTransfer.normal = lowerCaseTransfer := by decide
  obtain ⟨payload, hpack, hback⟩ := hround mixedCaseTransfer hmixed
  rw [hnormal] at hback
  have hbytes : Hex.bytesIn lowerCaseTransfer.target ++ Abi.word lowerCaseTransfer.amount
        ++ Hex.bytesIn lowerCaseTransfer.data
      = Hex.bytesIn mixedCaseTransfer.target ++ Abi.word mixedCaseTransfer.amount
        ++ Hex.bytesIn mixedCaseTransfer.data := by decide
  have hsame : lowerCaseTransfer.unchecked.pack = .ok payload := by
    rw [← hpack, hlower.pack_eq, hmixed.pack_eq, hbytes]
  have hdigits : Hex.ArePairs (Hex.unmarked (String.ofList (List.replicate 106 'F')).toList)
      ∧ 2 * 52 ≤ (Hex.unmarked (String.ofList (List.replicate 106 'F')).toList).length := by
    decide
  refine ⟨⟨payload, hpack, hsame, hshared _ _ hmixed hlower payload hpack hsame, hback⟩, ?_, ?_⟩
  · exact hread _ hdigits.1 hdigits.2
  · exact hunique (List.replicate 52 0) (by decide)

end Workflow
