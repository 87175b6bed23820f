import Workflow.Proofs.Abi.Arguments
import Workflow.Proofs.Call.Prepared
import Workflow.Proofs.Call.Submissions
import Workflow.Proofs.Expression.References

/-!
# How the preparation of a transaction fails

Before an on-chain step submits anything, it resolves its operations, forms their calls and packs
them.  All of this fails by the rules, or in one of the faults that `Operation.CallFault` names:

* an expression with an index numeral that has too many digits to be read,
* a target or call data with a line break behind the last digit,
* an integer with too many digits for the message that should show it,
* a description of a function, or an argument, that is at fault (`Abi.CalldataFault`).

A failure by the rules ends the step, and a fault is met again by every attempt there is
(`preparation_failure`).
-/

namespace Workflow

open Outcome

/-! ### Expressions -/

/-- Whether a text is an expression with an index of `n` digits, which are too many. -/
def HasLongIndex (s : String) (n : Nat) : Prop :=
  ∃ p digits, Path.parse s.toList = some p ∧ Segment.index digits ∈ p.tail ∧
    digits.length = n ∧ Numeral.digitLimit < n

/-- How some of several expressions ends in a fault. -/
inductive IndexFault (expressions : List String) : Fault → Prop where
  | tooMany {s : String} {n : Nat} (hs : s ∈ expressions) (h : HasLongIndex s n) :
    IndexFault expressions (.numeral (.tooManyDigits n))

theorem Context.resolveText_forms (c : Context) (s : String) :
    Forms (IndexFault (expressionsIn (.text s))) (c.resolveText s) := by
  rw [Context.resolveText]
  cases hpath : Path.parse s.toList with
  | none => exact .ok _
  | some p =>
    have hs : s ∈ expressionsIn (.text s) := by
      rw [expressionsIn, hpath]
      exact List.mem_singleton_self s
    show Forms _ (c.resolvePath s p)
    rw [Context.resolvePath]
    split
    · exact .ok _
    · next e he =>
      rcases of_walk_eq_error he with rfl | ⟨digits, hdigits, hlong, rfl⟩
      · exact .error (.rule ⟨_, rfl, rfl⟩)
      · rcases List.mem_cons.mp hdigits with hname | htail
        · cases hname
        · exact .error (.fault (.tooMany hs ⟨p, digits, hpath, htail, rfl, hlong⟩))

theorem Context.resolve_forms (c : Context) (v : Value) :
    Forms (IndexFault (expressionsIn v)) (c.resolve v) := by
  cases v with
  | text s => exact c.resolveText_forms s
  | _ => exact .ok _

theorem Context.resolveEach_forms (c : Context) (expressions : List String) :
    Forms (IndexFault expressions) (c.resolveEach expressions) := by
  intro e he
  obtain ⟨front, s, back, rfl, -, hs⟩ := Context.exists_of_resolveEach_eq_error he
  refine (c.resolveText_forms s e hs).mono fun f hf => ?_
  cases hf with
  | @tooMany t n ht hlong =>
    obtain rfl : t = s := by
      rw [expressionsIn] at ht
      split_ifs at ht
      · exact List.mem_singleton.mp ht
      · cases ht
    exact .tooMany (List.mem_append_right front List.mem_cons_self) hlong

theorem Context.resolveAll_forms (c : Context) (v : Value) :
    Forms (IndexFault (expressionsIn v)) (c.resolveAll v) := by
  have heach := c.resolveEach_forms (expressionsIn v)
  rw [← c.resolveAll_outcome v] at heach
  exact heach.of_map

theorem Context.resolveFields_forms (c : Context) (fs : List (String × Value)) :
    Forms (IndexFault (expressionsInFields fs)) (c.resolveFields fs) := by
  have heach := c.resolveEach_forms (expressionsInFields fs)
  rw [← c.resolveFields_outcome fs] at heach
  exact heach.of_map

/-! ### Operations -/

/-- The values that an operation is resolved from, in the order in which this happens. -/
def Operation.sources (op : Operation) : List Value :=
  .text op.target :: (op.amount.map Amount.toValue).toList ++ (op.calldata.map .text).toList
    ++ (op.arguments.map .record).toList

/-- The values that an operation supplies for its call, apart from arguments. -/
inductive Operation.Supplies (op : Operation) (c : Context) : Value → Prop where
  | target {v : Value} (h : c.resolveText op.target = .ok v) : Supplies op c v
  | amount {a : Amount} {v : Value} (h : op.amount = some a) (hv : c.resolve a.toValue = .ok v) :
    Supplies op c v
  | calldata {s : String} {v : Value} (h : op.calldata = some s) (hv : c.resolveText s = .ok v) :
    Supplies op c v
  | selector {s : String} (h : op.selector = some s) : Supplies op c (.text s)

/-- How forming and packing the call of an operation ends in a fault. -/
inductive Operation.CallFault (op : Operation) (c : Context) : Fault → Prop where
  /-- An index in an expression cannot be read. -/
  | index {f : Fault} (h : IndexFault (op.sources.flatMap expressionsIn) f) : CallFault op c f
  /-- A value that the operation supplies is unfit. -/
  | value {v : Value} {f : Fault} (hv : op.Supplies c v) (hf : v.Unfit f) : CallFault op c f
  /-- The description of the function or an argument is at fault. -/
  | calldata {fragment : FragmentSource} {given args : List (String × Value)} {f : Fault}
    (hfragment : op.fragment = some fragment) (hgiven : op.arguments = some given)
    (hargs : c.resolveFields given = .ok args) (h : Abi.CalldataFault fragment.toValue args f) :
    CallFault op c f

variable {op : Operation} {c : Context}

/-- What is resolved from an operation is at fault for an index in the operation. -/
theorem Operation.forms_of_source {α : Type} {x : Except Failure α} {v : Value}
    (hv : v ∈ op.sources) (h : Forms (IndexFault (expressionsIn v)) x) :
    Forms (op.CallFault c) x := by
  refine h.imp fun f hf => ?_
  cases hf with
  | tooMany hs hlong => exact .index (.tooMany (List.mem_flatMap.mpr ⟨v, hv, hs⟩) hlong)

/-- What is read from a value that an operation supplies is at fault as the value is. -/
theorem Operation.forms_of_supplies {α : Type} {x : Except Failure α} {v : Value}
    (hv : op.Supplies c v) (h : Forms v.Unfit x) : Forms (op.CallFault c) x :=
  h.imp fun _ hf => .value hv hf

theorem Operation.resolveTarget_forms (op : Operation) (c : Context) :
    Forms (op.CallFault c) (op.resolveTarget c) := by
  have hresolved : Forms (op.CallFault c) (c.resolveText op.target) :=
    forms_of_source List.mem_cons_self (c.resolveText_forms op.target)
  rw [Operation.resolveTarget]
  refine hresolved.bind fun v hv => ?_
  have hshowing : Forms (α := String) (op.CallFault c)
      (.error (.showing v (.badTarget (.text op.target) v))) :=
    .error (Failure.foreseen_showing ⟨_, rfl, rfl⟩ fun hv' => .value (.target hv) (.tooLong hv'))
  cases v with
  | text s =>
    dsimp only
    split_ifs
    · exact .ok _
    · exact .error (.rule ⟨_, rfl, rfl⟩)
  | _ => exact hshowing

theorem Operation.resolveAmount_forms (op : Operation) (c : Context) :
    Forms (op.CallFault c) (op.resolveAmount c) := by
  rw [Operation.resolveAmount]
  split
  · exact .ok _
  · next v hv =>
    obtain ⟨a, ha, rfl⟩ := Option.map_eq_some_iff.mp hv
    have hsource : a.toValue ∈ op.sources := by simp [sources, ha]
    split_ifs
    · exact .ok _
    · refine (forms_of_source hsource (c.resolve_forms a.toValue)).bind fun v hv => ?_
      exact forms_of_supplies (.amount ha hv) (unsignedWord_forms _ v)

/-- How forming the calls of operations is refused by the rules. -/
inductive CallRefusal (ops : List Operation) : Failure → Prop where
  /-- A value is not resolved or not coded. -/
  | value {e : Failure} (h : e.IsRefusal) : CallRefusal ops e
  /-- An operation has neither call data nor a selector to form them with. -/
  | incomplete {op : Operation} (hop : op ∈ ops) (hcalldata : op.calldata = none)
    (hselector : op.selector = none) : CallRefusal ops (.misconfigured .incompleteOperation)

theorem CallRefusal.isForming {ops : List Operation} {e : Failure} (h : CallRefusal ops e) :
    e.IsForming := by
  cases h with
  | value h => exact h.isForming
  | incomplete => exact ⟨_, rfl, rfl⟩

/-- Computations with several operations. -/
abbrev Prepares {α : Type} (ops : List Operation) (c : Context) (x : Except Failure α) : Prop :=
  FailsOnly (Failure.Foreseen (CallRefusal ops) fun f => ∃ op ∈ ops, op.CallFault c f) x

section

variable {ops : List Operation}

/-- What is formed from the values of one of the operations. -/
theorem Operation.prepares_of_forms {α : Type} {x : Except Failure α} (hop : op ∈ ops)
    (h : Forms (op.CallFault c) x) : Prepares ops c x :=
  (h.widen fun _ => .value).of_mem hop

theorem Operation.resolveData_prepares (hop : op ∈ ops) (c : Context) :
    Prepares ops c (op.resolveData c) := by
  unfold Operation.resolveData
  split
  -- Call data as they are, a function with its arguments, a selector alone, or nothing of these.
  · next _ _ _ prepared hprepared =>
    have hsource : .text prepared ∈ op.sources := by simp [sources, hprepared]
    refine prepares_of_forms hop ?_
    refine (forms_of_source hsource (c.resolveText_forms prepared)).bind fun v hv => ?_
    exact forms_of_supplies (.calldata hprepared hv) (hexText_forms _ v)
  · next selector fragment given _ _ hfragment hgiven =>
    have hsource : .record given ∈ op.sources := by simp [sources, hgiven]
    refine prepares_of_forms hop ?_
    refine (forms_of_source hsource (c.resolveFields_forms given)).bind fun args hargs => ?_
    exact (Abi.calldata_forms _ args selector).imp fun f hf =>
      .calldata hfragment hgiven hargs hf
  · next selector _ _ _ hselector _ =>
    exact prepares_of_forms hop (forms_of_supplies (.selector hselector) (hexText_forms _ _))
  · next hcalldata hselector => exact .error (.rule (.incomplete hop hcalldata hselector))

theorem Operation.toCall_prepares (hop : op ∈ ops) (c : Context) :
    Prepares ops c (op.toCall c) := by
  rw [Operation.toCall]
  refine (prepares_of_forms hop (op.resolveTarget_forms c)).bind fun target _ => ?_
  refine (prepares_of_forms hop (op.resolveAmount_forms c)).bind fun amount _ => ?_
  exact (resolveData_prepares hop c).bind fun data _ => .ok _

end

/-! ### Packing -/

/-- An address is no plain one only if a line break stands behind it. -/
theorem bytesOfHex_forms_of_isAddress {s : String} (h : isAddress s = true) :
    Forms (Value.text s).Unfit (bytesOfHex s) := by
  rcases isAddress_iff.mp h with hplain | ⟨cs, hs, hcs⟩
  · rw [(bytesOfHex_eq_ok_iff h).mpr ⟨hplain, rfl⟩]
    exact .ok _
  · obtain ⟨digits, rfl, hlen, -⟩ := isPlainAddress_iff.mp hcs
    have hodd : Hex.toBytes s = .error .oddLength := by
      rw [Hex.toBytes, hs, List.cons_append, List.cons_append, Hex.unmarked_marked, Hex.decode,
        if_pos (by simp [hlen])]
    rw [bytesOfHex, hodd]
    exact .error (.fault (.lineBreak hs))

theorem Operation.text_of_resolveTarget {target : String} (h : op.resolveTarget c = .ok target) :
    c.resolveText op.target = .ok (.text target) := by
  rw [Operation.resolveTarget] at h
  obtain ⟨v, hv, h⟩ := bind_eq_ok_iff.mp h
  cases v with
  | text s =>
    dsimp only at h
    split_ifs at h
    rw [hv, ← Except.ok.inj h]
  | _ => cases h

theorem Operation.lt_of_resolveAmount {n : Nat} (h : op.resolveAmount c = .ok n) :
    n < 2 ^ 256 := by
  rw [Operation.resolveAmount] at h
  split at h
  · rw [← Except.ok.inj h]
    exact Nat.two_pow_pos 256
  · split_ifs at h
    · rw [← Except.ok.inj h]
      exact Nat.two_pow_pos 256
    · obtain ⟨v, -, h⟩ := bind_eq_ok_iff.mp h
      exact (unsignedWord_eq_ok_iff.mp h).2

/-- Call data that an operation has formed are at fault as the value is that they come from. -/
theorem Operation.hexBytes_forms_of_resolveData {data : String}
    (h : op.resolveData c = .ok data) (label : String) :
    Forms (op.CallFault c) (hexBytes label (.text data)) := by
  unfold Operation.resolveData at h
  split at h
  · next _ _ _ prepared hprepared =>
    obtain ⟨v, hv, h⟩ := bind_eq_ok_iff.mp h
    exact forms_of_supplies (.calldata hprepared hv) (hexBytes_forms_of_hexText h label)
  · obtain ⟨args, -, h⟩ := bind_eq_ok_iff.mp h
    obtain ⟨bs, rfl⟩ := exists_eq_ofBytes_of_calldata h
    rw [hexBytes_ofBytes]
    exact .ok bs
  · next selector _ _ _ hselector _ =>
    exact forms_of_supplies (.selector hselector) (hexBytes_forms_of_hexText h label)
  · cases h

/-- Packing the call of an operation alone. -/
theorem pack_forms {call : Call} (h : op.toCall c = .ok call) :
    Forms (op.CallFault c) call.unchecked.pack := by
  obtain ⟨htarget, hamount, hdata⟩ := op.parts_of_toCall h
  have haddress := op.isAddress_of_resolveTarget htarget
  have hcheck : checkTarget (.text call.target) = .ok call.target := if_pos haddress
  have hsupplied := Operation.Supplies.target (op.text_of_resolveTarget htarget)
  have hpacked : Forms (op.CallFault c) call.unchecked.packBytes := by
    rw [UncheckedCall.packBytes]
    refine .bind (hcheck ▸ .ok _) fun target htarget' => ?_
    obtain rfl := Except.ok.inj (hcheck.symm.trans htarget')
    refine (op.hexBytes_forms_of_resolveData hdata _).bind fun data _ => ?_
    refine .bind ?_ fun targetBytes _ => .bind ?_ fun amount _ => .ok _
    · exact Operation.forms_of_supplies hsupplied (bytesOfHex_forms_of_isAddress haddress)
    · rw [Call.unchecked, unsignedWord_of_lt (op.lt_of_resolveAmount hamount)]
      exact .ok _
  exact hpacked.map _

/-- The row of an operation's call. -/
theorem row_forms {call : Call} (h : op.toCall c = .ok call) :
    Forms (op.CallFault c) call.unchecked.row := by
  obtain ⟨-, hamount, hdata⟩ := op.parts_of_toCall h
  rw [UncheckedCall.row]
  refine .bind (.ok _) fun target _ => .bind ?_ fun amount _ => ?_
  · rw [Call.unchecked, unsignedWord_of_lt (op.lt_of_resolveAmount hamount)]
    exact .ok _
  · exact (op.hexBytes_forms_of_resolveData hdata _).bind fun data _ => .ok _

/-- Packing the calls of operations together. -/
theorem packBatch_forms {ops : List Operation} {calls : List Call}
    (h : (ops.mapM fun op => op.toCall c) = .ok calls) :
    Forms (fun f => ∃ op ∈ ops, op.CallFault c f) (packBatch (calls.map Call.unchecked)) := by
  rw [packBatch]
  refine .bind (.mapM fun unchecked hunchecked => ?_) fun rows _ => ?_
  · obtain ⟨call, hcall, rfl⟩ := List.mem_map.mp hunchecked
    obtain ⟨op, hop, hbuilt⟩ := exists_of_mem_of_mapM h hcall
    exact (row_forms hbuilt).of_mem hop
  · split
    · exact .ok _
    · exact Forms.coding _

/-! ### Steps -/

theorem prepareSingle_prepares (op : Operation) (c : Context) :
    Prepares [op] c (prepareSingle op c) := by
  have hop : op ∈ [op] := List.mem_singleton_self op
  rw [prepareSingle]
  refine (op.toCall_prepares hop c).bind fun call hcall => ?_
  exact (op.prepares_of_forms hop (pack_forms hcall)).bind fun payload _ => .ok _

theorem prepareBatch_prepares (ops : List Operation) (c : Context) :
    Prepares ops c (prepareBatch ops c) := by
  rw [prepareBatch]
  refine .bind (.mapM fun op hop => op.toCall_prepares hop c) fun calls hcalls => ?_
  exact ((packBatch_forms hcalls).widen fun _ => .value).bind fun payload _ => .ok _

/-- A transaction is prepared, or refused by the rules, or an operation of the step is at fault. -/
theorem Step.prepare?_forms {step : Step} {prepared : Except Failure Prepared}
    (h : step.prepare? c = some prepared) :
    FailsOnly (Failure.Foreseen Failure.IsForming fun f => ∃ op ∈ step.operations, op.CallFault c f)
      prepared := by
  unfold Step.prepare? at h
  split at h
  · next op haction =>
    rw [← Option.some.inj h]
    cases op with
    | none => exact .error (.rule ⟨_, rfl, rfl⟩)
    | some op =>
      have hops : step.operations = [op] := by simp [Step.operations, haction]
      rw [hops]
      exact (prepareSingle_prepares op c).widen fun _ => CallRefusal.isForming
  · next ops haction =>
    rw [← Option.some.inj h]
    rcases ops with _ | _ | ⟨op, ops⟩
    · exact .error (.rule ⟨_, rfl, rfl⟩)
    · exact .error (.rule ⟨_, rfl, rfl⟩)
    · have hops : step.operations = op :: ops := by simp [Step.operations, haction]
      rw [hops]
      exact (prepareBatch_prepares (op :: ops) c).widen fun _ => CallRefusal.isForming
  · cases h

/-- **Failures of preparation.** An on-chain step either prepares its transaction or fails before
anything is submitted.  The failure is by the rules, does not pass and ends the step with its first
attempt, or it is a fault for which an operation of the step gives a reason.  A fault counts as one
that may pass, so that a step that is to be tried again makes all its attempts in vain. -/
theorem preparation_failure {step : Step} {c : Context} {prepared : Except Failure Prepared}
    (hprepare : step.prepare? c = some prepared) :
    (∃ p, prepared = .ok p) ∨ ∃ e, prepared = .error e ∧
      (∀ {σ : Type} (services : Services σ) (channel : Http.Channel) (options : Options) (s : σ),
        (step.attempt options (step.perform services channel c) s).world = s) ∧
      ((e.IsForming ∧ e.isTransient = false ∧
          ∀ {σ : Type} (services : Services σ) (channel : Http.Channel) (options : Options) (s : σ),
            (step.attempt options (step.perform services channel c) s).count = 1) ∨
        ∃ f, e = .fault f ∧ (∃ op ∈ step.operations, op.CallFault c f) ∧ e.isTransient = true ∧
          ∀ {σ : Type} (services : Services σ) (channel : Http.Channel) (options : Options) (s : σ),
            step.onError = .retry → ∀ limit, options.retries.count = .ok limit →
            (∀ i < limit, ∃ pause, options.retryBackoff.doubled i = .ok pause) →
            (step.attempt options (step.perform services channel c) s).count = limit + 1) := by
  cases prepared with
  | ok p => exact .inl ⟨p, rfl⟩
  | error e =>
    have hperform : ∀ {σ : Type} (services : Services σ) (channel : Http.Channel),
        step.perform services channel c = Act.done (.error e) :=
      fun services channel => Step.perform_of_prepare? hprepare services channel
    refine .inr ⟨e, rfl, fun services channel options s => ?_, ?_⟩
    · rw [hperform]
      exact step.world_of_done options s (.error e)
    cases Step.prepare?_forms hprepare e rfl with
    | rule hforming =>
      refine .inl ⟨hforming, hforming.isTransient_eq, fun services channel options s => ?_⟩
      rw [hperform]
      exact step.count_of_lasting options e s hforming.isTransient_eq
    | @fault f hf =>
      refine .inr ⟨f, rfl, hf, rfl, fun services channel options s hretry limit hlimit hpause => ?_⟩
      rw [hperform]
      exact step.count_of_transient options _ s rfl hretry hlimit hpause

/-- A payment whose target has a line break behind its last digit. -/
def brokenPayment : Step :=
  ⟨{ id := "pay", onError := .retry },
    .onchain (some { target := "0x00000000000000000000000000000000000000aa\n",
                     calldata := some "0x" })⟩

/-- The target passes for an address and cannot be read as one, three times over. -/
theorem preparation_failure_brokenPayment :
    brokenPayment.prepare? emptyContext = some (.error (.fault (.hex .oddLength))) ∧
      (brokenPayment.attempt {} (brokenPayment.perform closing .shared emptyContext) 0).count
        = 3 := by
  have hprepare : brokenPayment.prepare? emptyContext
      = some (.error (.fault (.hex .oddLength))) := by cbv
  refine ⟨hprepare, ?_⟩
  rcases preparation_failure hprepare with ⟨p, hp⟩ | ⟨e, he, -, hcase⟩
  · cases hp
  · obtain rfl := Except.error.inj he
    rcases hcase with ⟨⟨kind, hkind, -⟩, -, -⟩ | ⟨f, -, -, -, hcount⟩
    · cases hkind
    · refine hcount closing .shared {} 0 rfl 2 rfl fun i hi => ?_
      obtain rfl | rfl : i = 0 ∨ i = 1 := by omega
      · exact ⟨_, rfl⟩
      · exact ⟨_, rfl⟩

/-- Not every failure to prepare a transaction is by the rules and ends its step. -/
theorem preparation_not_foreseen : ¬ ∀ e,
    brokenPayment.prepare? emptyContext = some (.error e) → e.IsForming ∧ e.isTransient = false ∧
      (brokenPayment.attempt {} (brokenPayment.perform closing .shared emptyContext) 0).count
        = 1 := by
  intro hforeseen
  have hprepare : brokenPayment.prepare? emptyContext
      = some (.error (.fault (.hex .oddLength))) := by cbv
  obtain ⟨⟨kind, hkind, -⟩, -⟩ := hforeseen _ hprepare
  cases hkind

end Workflow
