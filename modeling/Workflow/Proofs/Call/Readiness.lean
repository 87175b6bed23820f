import Workflow.Proofs.Call.Prepared

/-!
# What stands in the way of a transaction

`Operation.Unready` lists, one by one, the reasons for which an operation has no call: its target,
its amount, its call data or an argument has no value, or the value is not of the kind that is
needed there.  `Step.CallsUnready` adds the reasons of a whole step: it has no operation, one of its
operations has no call, whichever it is, or the calls cannot be packed.

An operation has a call exactly if none of these reasons is there (`Operation.toCall_fails_iff`),
and a step has a transaction exactly if none is there (`Step.prepare?_fails_iff`).
-/

namespace Workflow

open Outcome

/-! ### Operations -/

/-- Why an operation has no call. -/
inductive Operation.Unready (op : Operation) (c : Context) : Prop where
  /-- The target is not resolved. -/
  | target (h : Fails (c.resolveText op.target))
  /-- The target is no address. -/
  | address {v : Value} (h : c.resolveText op.target = .ok v)
    (hv : ∀ s, v = .text s → isAddress s = false)
  /-- The amount is not resolved. -/
  | amount {a : Amount} (ha : op.amount = some a) (hgiven : isLeftOut a.toValue = false)
    (h : Fails (c.resolve a.toValue))
  /-- The amount is no unsigned word. -/
  | word {a : Amount} {v : Value} (ha : op.amount = some a) (hgiven : isLeftOut a.toValue = false)
    (h : c.resolve a.toValue = .ok v) (hv : Fails (unsignedWord op.amountLabel v))
  /-- The call data are not resolved. -/
  | calldata {s : String} (hs : op.calldata = some s) (h : Fails (c.resolveText s))
  /-- The call data are not hexadecimal. -/
  | calldataText {s : String} {v : Value} (hs : op.calldata = some s) (h : c.resolveText s = .ok v)
    (hv : Fails (hexText "calldata" v))
  /-- An argument is not resolved. -/
  | arguments {selector : String} {fragment : FragmentSource} {given : List (String × Value)}
    (hnone : op.calldata = none) (hselector : op.selector = some selector)
    (hfragment : op.fragment = some fragment) (hgiven : op.arguments = some given)
    (h : Fails (c.resolveFields given))
  /-- The function cannot be read, or the arguments cannot be encoded for it. -/
  | encoding {selector : String} {fragment : FragmentSource} {given args : List (String × Value)}
    (hnone : op.calldata = none) (hselector : op.selector = some selector)
    (hfragment : op.fragment = some fragment) (hgiven : op.arguments = some given)
    (h : c.resolveFields given = .ok args)
    (hdata : Fails (Abi.calldata fragment.toValue (.record args) (.text selector)))
  /-- A selector that stands alone is not hexadecimal. -/
  | selector {selector : String} (hnone : op.calldata = none)
    (hselector : op.selector = some selector) (halone : op.fragment = none ∨ op.arguments = none)
    (h : Fails (hexText "selector" (.text selector)))
  /-- There are neither call data nor a selector. -/
  | noCalldata (hnone : op.calldata = none) (hselector : op.selector = none)

variable {op : Operation} {c : Context}

theorem Operation.resolveTarget_fails_iff :
    Fails (op.resolveTarget c) ↔ Fails (c.resolveText op.target) ∨
      ∃ v, c.resolveText op.target = .ok v ∧ ∀ s, v = .text s → isAddress s = false := by
  rw [Operation.resolveTarget, fails_bind_iff]
  refine or_congr_right (exists_congr fun v => and_congr_right fun _ => ?_)
  cases v with
  | text s =>
    by_cases hs : isAddress s = true
    · have hok : ¬ Fails (return s : Except Failure String) := not_fails_ok s
      simp [hs, hok]
    · simp [hs, fails_error]
  | _ => simp [fails_error]

theorem Operation.resolveAmount_fails_iff :
    Fails (op.resolveAmount c) ↔ ∃ a, op.amount = some a ∧ isLeftOut a.toValue = false ∧
      (Fails (c.resolve a.toValue) ∨
        ∃ v, c.resolve a.toValue = .ok v ∧ Fails (unsignedWord op.amountLabel v)) := by
  unfold Operation.resolveAmount
  cases hamount : op.amount with
  | none => simp [not_fails_ok]
  | some a =>
    by_cases hleft : isLeftOut a.toValue = true
    · simp [hleft, not_fails_ok]
    · simp [hleft, fails_bind_iff]

theorem Operation.resolveData_fails_iff_of_calldata {prepared : String}
    (h : op.calldata = some prepared) :
    Fails (op.resolveData c) ↔ Fails (c.resolveText prepared) ∨
      ∃ v, c.resolveText prepared = .ok v ∧ Fails (hexText "calldata" v) := by
  unfold Operation.resolveData
  simp only [h, fails_bind_iff]

theorem Operation.resolveData_fails_iff_of_arguments {selector : String}
    {fragment : FragmentSource} {given : List (String × Value)} (hnone : op.calldata = none)
    (hselector : op.selector = some selector) (hfragment : op.fragment = some fragment)
    (hgiven : op.arguments = some given) :
    Fails (op.resolveData c) ↔ Fails (c.resolveFields given) ∨
      ∃ args, c.resolveFields given = .ok args ∧
        Fails (Abi.calldata fragment.toValue (.record args) (.text selector)) := by
  unfold Operation.resolveData
  simp only [hnone, hselector, hfragment, hgiven, fails_bind_iff]

theorem Operation.resolveData_eq_of_selector {selector : String} (hnone : op.calldata = none)
    (hselector : op.selector = some selector) (halone : op.fragment = none ∨ op.arguments = none) :
    op.resolveData c = hexText "selector" (.text selector) := by
  unfold Operation.resolveData
  rcases halone with halone | halone
  · simp only [hnone, hselector, halone]
  · cases hfragment : op.fragment <;> simp only [hnone, hselector, halone]

theorem Operation.resolveData_fails_of_none (hnone : op.calldata = none)
    (hselector : op.selector = none) : Fails (op.resolveData c) := by
  unfold Operation.resolveData
  simp only [hnone, hselector]
  exact fails_error _

/-- Where the call data are not formed, there is a reason for it. -/
theorem Operation.unready_of_resolveData_fails (h : Fails (op.resolveData c)) : op.Unready c := by
  cases hcalldata : op.calldata with
  | some prepared =>
    rcases (op.resolveData_fails_iff_of_calldata hcalldata).mp h with h | ⟨v, hv, h⟩
    · exact .calldata hcalldata h
    · exact .calldataText hcalldata hv h
  | none =>
    cases hselector : op.selector with
    | none => exact .noCalldata hcalldata hselector
    | some selector =>
      -- Without a function or without arguments the selector stands alone.
      by_cases halone : op.fragment = none ∨ op.arguments = none
      · rw [op.resolveData_eq_of_selector hcalldata hselector halone] at h
        exact .selector hcalldata hselector halone h
      · obtain ⟨hfragment, hgiven⟩ := not_or.mp halone
        obtain ⟨fragment, hfragment⟩ := Option.ne_none_iff_exists'.mp hfragment
        obtain ⟨given, hgiven⟩ := Option.ne_none_iff_exists'.mp hgiven
        rw [op.resolveData_fails_iff_of_arguments hcalldata hselector hfragment hgiven] at h
        rcases h with h | ⟨args, hargs, h⟩
        · exact .arguments hcalldata hselector hfragment hgiven h
        · exact .encoding hcalldata hselector hfragment hgiven hargs h

/-- A call is formed exactly if all of its parts are. -/
theorem Operation.toCall_fails_iff_parts :
    Fails (op.toCall c) ↔ Fails (op.resolveTarget c) ∨ Fails (op.resolveAmount c)
      ∨ Fails (op.resolveData c) := by
  rw [Operation.toCall]
  refine fails_bind_iff_or fun target => ?_
  refine fails_bind_iff_or fun amount => ?_
  exact fails_bind_pure_iff

/-- An operation has no call exactly if there is a reason for it. -/
theorem Operation.toCall_fails_iff : Fails (op.toCall c) ↔ op.Unready c := by
  rw [op.toCall_fails_iff_parts]
  constructor
  · rintro (h | h | h)
    · rcases op.resolveTarget_fails_iff.mp h with h | ⟨v, h, hv⟩
      · exact .target h
      · exact .address h hv
    · obtain ⟨a, ha, hgiven, h | ⟨v, h, hv⟩⟩ := op.resolveAmount_fails_iff.mp h
      · exact .amount ha hgiven h
      · exact .word ha hgiven h hv
    · exact op.unready_of_resolveData_fails h
  · intro h
    cases h with
    | target h => exact .inl (op.resolveTarget_fails_iff.mpr (.inl h))
    | address h hv => exact .inl (op.resolveTarget_fails_iff.mpr (.inr ⟨_, h, hv⟩))
    | amount ha hgiven h =>
      exact .inr (.inl (op.resolveAmount_fails_iff.mpr ⟨_, ha, hgiven, .inl h⟩))
    | word ha hgiven h hv =>
      exact .inr (.inl (op.resolveAmount_fails_iff.mpr ⟨_, ha, hgiven, .inr ⟨_, h, hv⟩⟩))
    | calldata hs h =>
      exact .inr (.inr ((op.resolveData_fails_iff_of_calldata hs).mpr (.inl h)))
    | calldataText hs h hv =>
      exact .inr (.inr ((op.resolveData_fails_iff_of_calldata hs).mpr (.inr ⟨_, h, hv⟩)))
    | arguments hnone hselector hfragment hgiven h =>
      refine .inr (.inr ?_)
      rw [op.resolveData_fails_iff_of_arguments hnone hselector hfragment hgiven]
      exact .inl h
    | encoding hnone hselector hfragment hgiven h hdata =>
      refine .inr (.inr ?_)
      rw [op.resolveData_fails_iff_of_arguments hnone hselector hfragment hgiven]
      exact .inr ⟨_, h, hdata⟩
    | selector hnone hselector halone h =>
      rw [op.resolveData_eq_of_selector hnone hselector halone]
      exact .inr (.inr h)
    | noCalldata hnone hselector =>
      exact .inr (.inr (op.resolveData_fails_of_none hnone hselector))

/-! ### Packing -/

/-- The call of an operation is packed alone exactly if it is well-formed. -/
theorem Operation.pack_fails_iff {call : Call} (h : op.toCall c = .ok call) :
    Fails call.unchecked.pack ↔ ¬ call.WellFormed := by
  have htarget := (op.of_toCall h).1
  rw [← not_iff_not, not_fails_iff, not_not]
  constructor
  · rintro ⟨payload, hpayload⟩
    exact ((Call.pack_eq_ok_iff htarget).mp hpayload).1
  · intro hwell
    exact ⟨_, (Call.pack_eq_ok_iff htarget).mpr ⟨hwell, rfl⟩⟩

/-- The calls of operations are packed together exactly if each of them is well-formed and words
hold all offsets and lengths. -/
theorem packBatch_fails_iff {ops : List Operation} {calls : List Call}
    (h : (ops.mapM fun op => op.toCall c) = .ok calls) :
    Fails (packBatch (calls.map Call.unchecked)) ↔
      (∃ call ∈ calls, ¬ call.WellFormed) ∨ ¬ FitsWords calls := by
  have htargets : ∀ call ∈ calls, isAddress call.target = true := by
    intro call hcall
    obtain ⟨op, -, hop⟩ := exists_of_mem_of_mapM h hcall
    exact (op.of_toCall hop).1
  -- What is known of packing is when it succeeds, so both sides are negated.
  rw [← not_iff_not, not_fails_iff, not_or, not_not]
  push Not
  constructor
  · rintro ⟨payload, hpayload⟩
    exact ((packBatch_eq_ok_iff htargets).mp hpayload).1
  · intro hfit
    exact ⟨_, (packBatch_eq_ok_iff htargets).mpr ⟨hfit, rfl⟩⟩

theorem prepareSingle_fails_iff :
    Fails (prepareSingle op c) ↔
      op.Unready c ∨ ∃ call, op.toCall c = .ok call ∧ ¬ call.WellFormed := by
  rw [prepareSingle, fails_bind_iff, op.toCall_fails_iff]
  refine or_congr_right (exists_congr fun call => and_congr_right fun hcall => ?_)
  rw [fails_bind_pure_iff, op.pack_fails_iff hcall]

theorem prepareBatch_fails_iff {ops : List Operation} :
    Fails (prepareBatch ops c) ↔ (∃ op ∈ ops, op.Unready c) ∨
      ∃ calls, (ops.mapM fun op => op.toCall c) = .ok calls ∧
        ((∃ call ∈ calls, ¬ call.WellFormed) ∨ ¬ FitsWords calls) := by
  have hops : Fails (ops.mapM fun op => op.toCall c) ↔ ∃ op ∈ ops, op.Unready c := by
    rw [fails_mapM_iff]
    exact exists_congr fun op => and_congr_right fun _ => op.toCall_fails_iff
  rw [prepareBatch, fails_bind_iff, hops]
  refine or_congr_right (exists_congr fun calls => and_congr_right fun hcalls => ?_)
  rw [fails_bind_pure_iff, packBatch_fails_iff hcalls]

/-! ### Steps -/

/-- Why an on-chain step has no transaction. -/
inductive Step.CallsUnready (step : Step) (c : Context) : Prop where
  /-- The one operation is missing. -/
  | noOperation (haction : step.action = .onchain none)
  /-- The operations are missing, or there are none. -/
  | noOperations
    (haction : step.action = .onchainBatch none ∨ step.action = .onchainBatch (some []))
  /-- One of the operations, whichever it is, has no call. -/
  | operation {op : Operation} (hop : op ∈ step.operations) (h : op.Unready c)
  /-- A call is not well-formed. -/
  | call {calls : List Call} {call : Call} (hcalls : step.builtCalls c = .ok calls)
    (hcall : call ∈ calls) (h : ¬ call.WellFormed)
  /-- Words do not hold the offsets and lengths of a batch. -/
  | batch {ops : List Operation} {calls : List Call}
    (haction : step.action = .onchainBatch (some ops)) (hcalls : step.builtCalls c = .ok calls)
    (h : ¬ FitsWords calls)

variable {step : Step}

theorem Step.operations_of_onchain (h : step.action = .onchain (some op)) :
    step.operations = [op] := by
  simp only [Step.operations, h]

theorem Step.operations_of_onchainBatch {ops : List Operation}
    (h : step.action = .onchainBatch (some ops)) : step.operations = ops := by
  simp only [Step.operations, h]

theorem Step.builtCalls_eq_ok_iff_of_onchain (h : step.action = .onchain (some op))
    {calls : List Call} :
    step.builtCalls c = .ok calls ↔ ∃ call, op.toCall c = .ok call ∧ calls = [call] := by
  rw [Step.builtCalls, Step.operations_of_onchain h, mapM_eq_ok_iff, List.forall₂_cons_left_iff]
  simp only [List.forall₂_nil_left_iff]
  constructor
  · rintro ⟨call, _, hcall, rfl, rfl⟩
    exact ⟨call, hcall, rfl⟩
  · rintro ⟨call, hcall, rfl⟩
    exact ⟨call, [], hcall, rfl, rfl⟩

/-- A step with one operation has no transaction exactly if there is a reason for it. -/
theorem Step.callsUnready_iff_of_onchain (h : step.action = .onchain (some op)) :
    step.CallsUnready c ↔
      op.Unready c ∨ ∃ call, op.toCall c = .ok call ∧ ¬ call.WellFormed := by
  constructor
  · intro hunready
    cases hunready with
    | noOperation h' => cases h.symm.trans h'
    | noOperations h' => rcases h' with h' | h' <;> cases h.symm.trans h'
    | operation hop hunready =>
      rw [Step.operations_of_onchain h, List.mem_singleton] at hop
      rw [hop] at hunready
      exact .inl hunready
    | call hcalls hcall hmalformed =>
      obtain ⟨call, hbuilt, rfl⟩ := (Step.builtCalls_eq_ok_iff_of_onchain h).mp hcalls
      rw [List.mem_singleton.mp hcall] at hmalformed
      exact .inr ⟨call, hbuilt, hmalformed⟩
    | batch h' => cases h.symm.trans h'
  · rintro (hunready | ⟨call, hcall, hmalformed⟩)
    · have hop : op ∈ step.operations := by simp [Step.operations_of_onchain h]
      exact .operation hop hunready
    · have hcalls := (Step.builtCalls_eq_ok_iff_of_onchain h).mpr ⟨call, hcall, rfl⟩
      exact .call hcalls (List.mem_singleton_self call) hmalformed

/-- A step with several operations has no transaction exactly if there is a reason for it. -/
theorem Step.callsUnready_iff_of_onchainBatch {op : Operation} {ops : List Operation}
    (h : step.action = .onchainBatch (some (op :: ops))) :
    step.CallsUnready c ↔ (∃ op' ∈ op :: ops, op'.Unready c) ∨
      ∃ calls, ((op :: ops).mapM fun op => op.toCall c) = .ok calls ∧
        ((∃ call ∈ calls, ¬ call.WellFormed) ∨ ¬ FitsWords calls) := by
  have hbuilt : step.builtCalls c = (op :: ops).mapM fun op => op.toCall c := by
    rw [Step.builtCalls, Step.operations_of_onchainBatch h]
  constructor
  · intro hunready
    cases hunready with
    | noOperation h' => cases h.symm.trans h'
    | noOperations h' => rcases h' with h' | h' <;> cases h.symm.trans h'
    | operation hop hunready =>
      rw [Step.operations_of_onchainBatch h] at hop
      exact .inl ⟨_, hop, hunready⟩
    | call hcalls hcall hmalformed =>
      exact .inr ⟨_, hbuilt.symm.trans hcalls, .inl ⟨_, hcall, hmalformed⟩⟩
    | batch h' hcalls hlarge => exact .inr ⟨_, hbuilt.symm.trans hcalls, .inr hlarge⟩
  · rintro (⟨op', hop, hunready⟩ | ⟨calls, hcalls, ⟨call, hcall, hmalformed⟩ | hlarge⟩)
    · rw [← Step.operations_of_onchainBatch h] at hop
      exact .operation hop hunready
    · exact .call (hbuilt.trans hcalls) hcall hmalformed
    · exact .batch h (hbuilt.trans hcalls) hlarge

/-- An on-chain step has no transaction exactly if there is a reason for it. -/
theorem Step.prepare?_fails_iff {prepared : Except Failure Prepared}
    (h : step.prepare? c = some prepared) : Fails prepared ↔ step.CallsUnready c := by
  unfold Step.prepare? at h
  split at h
  · next op haction =>
    obtain rfl := Option.some.inj h
    cases op with
    | none => exact ⟨fun _ => .noOperation haction, fun _ => fails_error _⟩
    | some op =>
      rw [Step.callsUnready_iff_of_onchain haction]
      exact prepareSingle_fails_iff
  · next ops haction =>
    obtain rfl := Option.some.inj h
    rcases ops with _ | _ | ⟨op, ops⟩
    · exact ⟨fun _ => .noOperations (.inl haction), fun _ => fails_error _⟩
    · exact ⟨fun _ => .noOperations (.inr haction), fun _ => fails_error _⟩
    · rw [Step.callsUnready_iff_of_onchainBatch haction]
      exact prepareBatch_fails_iff
  · cases h

end Workflow
