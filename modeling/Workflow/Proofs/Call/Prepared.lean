import Workflow.Call.Step
import Workflow.Proofs.Call.Batch
import Workflow.Proofs.Service.Submission
import Workflow.Proofs.Step.Perform
import Workflow.Service.InMemory

/-!
# What a prepared transaction carries

An on-chain step builds the calls of its operations and packs them into one payload; the mode of
the transaction says how.  Reading the transaction gives these calls back, in order and equal up to
case (`Step.carries_of_prepare?`): the mode selects the reader that belongs to the packing, and both
kinds of payload are read back.
-/

namespace Workflow

/-! ### Single calls -/

theorem Hex.unmarked_not_arePairs {s : String} {cs : List Char} (hs : s.toList = cs ++ ['\n'])
    (hcs : isPlainAddress cs = true) : ¬ Hex.ArePairs (Hex.unmarked s.toList) := by
  obtain ⟨digits, rfl, -, -⟩ := isPlainAddress_iff.mp hcs
  intro hpairs
  rw [hs, List.cons_append, List.cons_append, Hex.unmarked_marked] at hpairs
  exact hpairs.newline_not_mem (List.mem_append_right digits (List.mem_singleton_self '\n'))

theorem bytesOfHex_eq_ok_iff {s : String} (h : isAddress s = true) {bs : List UInt8} :
    bytesOfHex s = .ok bs ↔ isPlainAddress s.toList = true ∧ Hex.bytesIn s = bs := by
  have hread : bytesOfHex s = .ok bs ↔ Hex.toBytes s = .ok bs := Outcome.mapError_eq_ok_iff
  rw [hread]
  rcases isAddress_iff.mp h with hplain | ⟨cs, hs, hcs⟩
  · rw [Hex.toBytes_of_arePairs (unmarked_of_isPlainAddress hplain).2.arePairs, Except.ok.injEq]
    exact ⟨fun heq => ⟨hplain, heq⟩, fun heq => heq.2⟩
  · constructor
    · intro hok
      exact absurd (Hex.decode_eq_ok_iff.mp hok).1 (Hex.unmarked_not_arePairs hs hcs)
    · rintro ⟨hplain, -⟩
      exact absurd (unmarked_of_isPlainAddress hplain).2.arePairs (Hex.unmarked_not_arePairs hs hcs)

/-- A call with an address is packed alone exactly if it is well-formed. -/
theorem Call.pack_eq_ok_iff {call : Call} (htarget : isAddress call.target = true)
    {payload : String} :
    call.unchecked.pack = .ok payload ↔
      call.WellFormed ∧ Hex.ofBytes (Hex.bytesIn call.target ++ Abi.word call.amount
        ++ Hex.bytesIn call.data) = payload := by
  have hcheck : checkTarget (.text call.target) = .ok call.target := if_pos htarget
  rw [UncheckedCall.pack, Outcome.map_eq_ok_iff, UncheckedCall.packBytes]
  constructor
  · rintro ⟨bs, h, rfl⟩
    obtain ⟨target, hchecked, h⟩ := Outcome.bind_eq_ok_iff.mp h
    obtain ⟨data, hdata, h⟩ := Outcome.bind_eq_ok_iff.mp h
    obtain ⟨targetBytes, hbytes, h⟩ := Outcome.bind_eq_ok_iff.mp h
    obtain ⟨amount, hamount, h⟩ := Outcome.bind_eq_ok_iff.mp h
    obtain rfl := Except.ok.inj (hcheck.symm.trans hchecked)
    obtain ⟨hpairs, rfl⟩ := hexBytes_eq_ok_iff.mp hdata
    obtain ⟨hplain, rfl⟩ := (bytesOfHex_eq_ok_iff htarget).mp hbytes
    obtain ⟨hint, hlt⟩ := unsignedWord_eq_ok_iff.mp hamount
    obtain rfl : call.amount = amount := Int.ofNat_inj.mp (Except.ok.inj hint)
    exact ⟨⟨hplain, hlt, hpairs⟩, congrArg Hex.ofBytes (Except.ok.inj h)⟩
  · rintro ⟨hwell, rfl⟩
    have hamount := unsignedWord_of_lt hwell.amount "value"
    have hdata : hexBytes "calldata" (.text call.data) = .ok (Hex.bytesIn call.data) :=
      hexBytes_eq_ok_iff.mpr ⟨hwell.data, rfl⟩
    have hbytes := (bytesOfHex_eq_ok_iff htarget).mpr ⟨hwell.target, rfl⟩
    exact ⟨_, Outcome.bind_eq_ok_iff.mpr ⟨_, hcheck, Outcome.bind_eq_ok_iff.mpr ⟨_, hdata,
      Outcome.bind_eq_ok_iff.mpr ⟨_, hbytes, Outcome.bind_eq_ok_iff.mpr ⟨_, hamount, rfl⟩⟩⟩⟩, rfl⟩

theorem unpackBytes_append {target data : List UInt8} {amount : Nat} (htarget : target.length = 20)
    (hamount : amount < 2 ^ 256) :
    Call.unpackBytes (target ++ Abi.word amount ++ data)
      = .ok ⟨Hex.ofBytes target, amount, Hex.ofBytes data⟩ := by
  have hhead : (target ++ Abi.word amount).length = 52 := by
    rw [List.length_append, htarget, Abi.length_word]
  have hlong : ¬ (target ++ Abi.word amount ++ data).length < singleHeadSize := by
    rw [List.length_append, hhead, singleHeadSize]
    omega
  have hrest : (target ++ Abi.word amount ++ data).drop singleHeadSize = data :=
    List.drop_left' hhead
  rw [Call.unpackBytes, if_neg hlong, hrest, List.append_assoc, List.take_left' htarget,
    List.drop_left' htarget, List.take_left' (Abi.length_word amount),
    Abi.bigEndianValue_word hamount]

/-- What was packed alone is read back, target and data in lower case. -/
theorem Call.unpack_of_pack {call : Call} {payload : String}
    (htarget : isAddress call.target = true) (h : call.unchecked.pack = .ok payload) :
    Call.unpack (.text payload) = .ok call.normal := by
  obtain ⟨hwell, rfl⟩ := (Call.pack_eq_ok_iff htarget).mp h
  rw [Call.unpack, Call.normal_eq hwell]
  refine Outcome.bind_eq_ok_iff.mpr ⟨_, hexBytes_ofBytes payloadLabel _, ?_⟩
  exact unpackBytes_append (length_bytesIn_of_isPlainAddress hwell.target) hwell.amount

/-! ### Calls of operations -/

/-- A call with target and data in lower case. -/
def Call.lower (call : Call) : Call :=
  { call with target := Text.lower call.target, data := Text.lower call.data }

theorem Call.normal_eq_lower {call : Call} {cs : List Char}
    (h : call.data = String.ofList ('0' :: 'x' :: cs)) : call.normal = call.lower := by
  have hcs : Hex.unmarked call.data.toList = cs := by
    rw [h, String.toList_ofList, Hex.unmarked_marked]
  rw [Call.normal, Call.lower, hcs, ← h]

theorem exists_eq_marked_of_hexText {label s : String} {v : Value} (h : hexText label v = .ok s) :
    ∃ cs, s = String.ofList ('0' :: 'x' :: cs) := by
  cases v with
  | bytes bs =>
    obtain rfl := Except.ok.inj h
    exact ⟨Hex.encode bs, rfl⟩
  | text t =>
    rw [hexText_text] at h
    split_ifs at h
    exact ⟨_, (Except.ok.inj h).symm⟩
  | _ => cases h

theorem exists_eq_ofBytes_of_calldata {fragment args selector : Value} {s : String}
    (h : Abi.calldata fragment args selector = .ok s) : ∃ bs, s = Hex.ofBytes bs := by
  rw [Abi.calldata] at h
  obtain ⟨f, -, h⟩ := Outcome.bind_eq_ok_iff.mp h
  obtain ⟨-, -, h⟩ := Outcome.bind_eq_ok_iff.mp h
  obtain ⟨bs, -, h⟩ := Outcome.bind_eq_ok_iff.mp h
  exact ⟨bs, (Except.ok.inj h).symm⟩

/-- The call data of an operation are marked, whatever they come from. -/
theorem Operation.exists_eq_marked {op : Operation} {c : Context} {data : String}
    (h : op.resolveData c = .ok data) : ∃ cs, data = String.ofList ('0' :: 'x' :: cs) := by
  unfold Operation.resolveData at h
  split at h
  · obtain ⟨v, -, h⟩ := Outcome.bind_eq_ok_iff.mp h
    exact exists_eq_marked_of_hexText h
  · obtain ⟨args, -, h⟩ := Outcome.bind_eq_ok_iff.mp h
    obtain ⟨bs, rfl⟩ := exists_eq_ofBytes_of_calldata h
    exact ⟨Hex.encode bs, rfl⟩
  · exact exists_eq_marked_of_hexText h
  · cases h

theorem Operation.isAddress_of_resolveTarget {op : Operation} {c : Context} {target : String}
    (h : op.resolveTarget c = .ok target) : isAddress target = true := by
  rw [Operation.resolveTarget] at h
  obtain ⟨v, -, h⟩ := Outcome.bind_eq_ok_iff.mp h
  cases v with
  | text s =>
    simp only at h
    split_ifs at h with hs
    rw [← Except.ok.inj h]
    exact hs
  | _ => cases h

theorem Operation.parts_of_toCall {op : Operation} {c : Context} {call : Call}
    (h : op.toCall c = .ok call) :
    op.resolveTarget c = .ok call.target ∧ op.resolveAmount c = .ok call.amount ∧
      op.resolveData c = .ok call.data := by
  rw [Operation.toCall] at h
  obtain ⟨target, htarget, h⟩ := Outcome.bind_eq_ok_iff.mp h
  obtain ⟨amount, hamount, h⟩ := Outcome.bind_eq_ok_iff.mp h
  obtain ⟨data, hdata, h⟩ := Outcome.bind_eq_ok_iff.mp h
  obtain rfl := Except.ok.inj h
  exact ⟨htarget, hamount, hdata⟩

/-- The call of an operation has an address, and is read back as it is up to case. -/
theorem Operation.of_toCall {op : Operation} {c : Context} {call : Call}
    (h : op.toCall c = .ok call) :
    isAddress call.target = true ∧ call.normal = call.lower := by
  obtain ⟨htarget, -, hdata⟩ := op.parts_of_toCall h
  obtain ⟨cs, hcs⟩ := op.exists_eq_marked hdata
  exact ⟨op.isAddress_of_resolveTarget htarget, Call.normal_eq_lower hcs⟩

/-! ### Transactions of steps -/

/-- The calls that a step builds in a context, in the order of its operations. -/
def Step.builtCalls (step : Step) (c : Context) : Except Failure (List Call) :=
  step.operations.mapM fun op => op.toCall c

/-- What a prepared transaction is made of. -/
structure Prepared.Carries (p : Prepared) (calls : List Call) (ops : List Operation) : Prop where
  /-- The calls are read back up to case. -/
  calls_eq : p.request.calls = .ok (calls.map Call.lower)
  /-- The payload is hexadecimal text. -/
  payload : ∃ bs, p.request.executionData = .text (Hex.ofBytes bs)
  /-- A denial names the calls with their operations. -/
  names_eq : p.calls = nameCalls calls ops

/-- The names of calls and operations are texts. -/
theorem Denied.ofCalls_nameCalls (calls : List Call) (ops : List Operation) :
    Denied.ofCalls (nameCalls calls ops)
      = .ok ⟨(calls.zip ops).map (·.1.target), (calls.zip ops).map (·.2.label)⟩ := by
  have htargets : (nameCalls calls ops).map (·.target)
      = ((calls.zip ops).map (·.1.target)).map .text := by
    rw [nameCalls, List.map_zipWith, List.map_map, List.map_zip_eq_zipWith]
    rfl
  have hlabels : (nameCalls calls ops).map (·.operation)
      = ((calls.zip ops).map (·.2.label)).map .text := by
    rw [nameCalls, List.map_zipWith, List.map_map, List.map_zip_eq_zipWith]
    rfl
  rw [ofCalls, htargets, hlabels, textsFrom_texts, textsFrom_texts]
  rfl

/-- With a call for each operation, all of them are named. -/
theorem Denied.ofCalls_nameCalls_of_length_eq {calls : List Call} {ops : List Operation}
    (h : calls.length = ops.length) :
    Denied.ofCalls (nameCalls calls ops)
      = .ok ⟨calls.map (·.target), ops.map (·.label)⟩ := by
  have htargets : (calls.zip ops).map (·.1.target) = calls.map (·.target) :=
    calc (calls.zip ops).map (·.1.target)
        = ((calls.zip ops).map Prod.fst).map (·.target) := by rw [List.map_map]; rfl
      _ = calls.map (·.target) := by rw [List.map_fst_zip h.le]
  have hlabels : (calls.zip ops).map (·.2.label) = ops.map (·.label) :=
    calc (calls.zip ops).map (·.2.label)
        = ((calls.zip ops).map Prod.snd).map (·.label) := by rw [List.map_map]; rfl
      _ = ops.map (·.label) := by rw [List.map_snd_zip h.ge]
  rw [ofCalls_nameCalls, htargets, hlabels]

theorem isBatchMode_batchMode : isBatchMode (.text batchMode) = true := beq_self_eq_true batchMode

theorem isBatchMode_singleMode : isBatchMode (.text singleMode) = false := by
  have hne : singleMode ≠ batchMode := by decide
  exact beq_eq_false_iff_ne.mpr hne

theorem of_prepareSingle {op : Operation} {c : Context} {p : Prepared}
    (h : prepareSingle op c = .ok p) :
    ∃ call, op.toCall c = .ok call ∧ p.Carries [call] [op] := by
  rw [prepareSingle] at h
  obtain ⟨call, hcall, h⟩ := Outcome.bind_eq_ok_iff.mp h
  obtain ⟨payload, hpayload, h⟩ := Outcome.bind_eq_ok_iff.mp h
  obtain rfl := Except.ok.inj h
  obtain ⟨htarget, hnormal⟩ := op.of_toCall hcall
  have hread := Call.unpack_of_pack htarget hpayload
  obtain ⟨-, rfl⟩ := (Call.pack_eq_ok_iff htarget).mp hpayload
  refine ⟨call, hcall, ?_, ⟨_, rfl⟩, rfl⟩
  rw [TransactionRequest.calls, isBatchMode_singleMode, if_neg Bool.false_ne_true, hread, hnormal]
  rfl

theorem of_prepareBatch {ops : List Operation} {c : Context} {p : Prepared}
    (h : prepareBatch ops c = .ok p) :
    ∃ calls, (ops.mapM fun op => op.toCall c) = .ok calls ∧ p.Carries calls ops := by
  rw [prepareBatch] at h
  obtain ⟨calls, hcalls, h⟩ := Outcome.bind_eq_ok_iff.mp h
  obtain ⟨payload, hpayload, h⟩ := Outcome.bind_eq_ok_iff.mp h
  obtain rfl := Except.ok.inj h
  have hbuilt : ∀ call ∈ calls, isAddress call.target = true ∧ call.normal = call.lower := by
    intro call hc
    obtain ⟨op, -, hop⟩ := Outcome.exists_of_mem_of_mapM hcalls hc
    exact op.of_toCall hop
  have hread := unpackBatch_of_packBatch (fun call hc => (hbuilt call hc).1) hpayload
  rw [List.map_congr_left fun call hc => (hbuilt call hc).2] at hread
  obtain ⟨-, rfl⟩ := (packBatch_eq_ok_iff fun call hc => (hbuilt call hc).1).mp hpayload
  refine ⟨calls, hcalls, ?_, ⟨_, rfl⟩, rfl⟩
  rw [TransactionRequest.calls, isBatchMode_batchMode, if_pos rfl, hread]

/-- A prepared transaction carries the calls that its step has built, of which there is at least
one. -/
theorem Step.carries_of_prepare? {step : Step} {c : Context} {p : Prepared}
    (h : step.prepare? c = some (.ok p)) :
    ∃ calls, step.builtCalls c = .ok calls ∧ step.operations ≠ [] ∧
      p.Carries calls step.operations := by
  unfold Step.prepare? at h
  split at h
  · next op haction =>
    cases op with
    | none => cases Option.some.inj h
    | some op =>
      obtain ⟨call, hcall, hcarries⟩ := of_prepareSingle (Option.some.inj h)
      have hops : step.operations = [op] := by simp [Step.operations, haction]
      rw [Step.builtCalls, hops, List.mapM_cons, hcall]
      exact ⟨[call], rfl, List.cons_ne_nil op [], hcarries⟩
  · next ops haction =>
    match ops with
    | none => cases Option.some.inj h
    | some [] => cases Option.some.inj h
    | some (op :: ops) =>
      obtain ⟨calls, hcalls, hcarries⟩ := of_prepareBatch (Option.some.inj h)
      have hops : step.operations = op :: ops := by simp [Step.operations, haction]
      rw [Step.builtCalls, hops]
      exact ⟨calls, hcalls, List.cons_ne_nil op ops, hcarries⟩
  · cases h

end Workflow
