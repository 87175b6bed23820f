import Workflow.Proofs.Call.Submissions
import Workflow.Proofs.Engine.Entries
import Workflow.Proofs.Service.InMemory

/-!
# Only calls to allowed targets are recorded

A run with services in memory that are restricted to some targets records one transaction for each
on-chain step that succeeded, in the order of the steps, and nothing else.  The invariant is
`Ledger`: of the attempts at one step all but the last one fail and leave the services as they are,
and the last one records its transaction exactly if it succeeds (`Step.lands_or_leaves`).  Steps
that were not executed have no outcome and no transaction, so the ledger of the executed steps is
that of the whole definition (`Ledger.whole`).

`allow_list_safety` adds what is known of a transaction that was recorded, and that a transaction
with any other target is turned away.
-/

namespace Workflow

variable {τ : Type} {send : Http.Request → Act τ Http.Response} {channel : Http.Channel}
  {options : Options} {targets : List String}

/-! ### Steps that land a transaction -/

/-- Whether a step lands a transaction: it is an on-chain step, and it succeeded. -/
def Step.lands (visits : List Visit) (step : Step) : Bool :=
  decide step.IsOnchain && step.succeeded visits

/-- Whether a transaction is the one that a step has landed: it was prepared for the call of its
handler that succeeded. -/
def Step.Landed (targets : List String) (visits : List Visit) (step : Step)
    (request : TransactionRequest) : Prop :=
  ∃ v ∈ visits, v.step = step ∧ (∃ output, v.outcome = .ok output) ∧
    InMemory.Lands targets step v.context request

theorem Step.Landed.append {visits : List Visit} {step : Step} {request : TransactionRequest}
    (h : step.Landed targets visits request) (more : List Visit) :
    step.Landed targets (visits ++ more) request := by
  obtain ⟨v, hv, hlanded⟩ := h
  exact ⟨v, List.mem_append_left more hv, hlanded⟩

theorem Step.lands_append_of_ne {visits more : List Visit} {step : Step}
    (h : ∀ v ∈ more, v.step.id ≠ step.id) :
    step.lands (visits ++ more) = step.lands visits := by
  rw [Step.lands, Step.lands, Step.succeeded, Step.succeeded, outcomeOf?_append_of_ne h]

theorem Step.lands_of_not_called {visits : List Visit} {step : Step}
    (h : ∀ v ∈ visits, v.step.id ≠ step.id) : step.lands visits = false := by
  rw [Step.lands, Step.succeeded, outcomeOf?_eq_none h, Bool.and_false]

/-- What services in memory have recorded between two states, as seen from some steps: one
transaction for each step that lands one, in the order of the steps, and nothing else. -/
def LandInOrder (targets : List String) (visits : List Visit) (steps : List Step)
    (m m' : InMemory) : Prop :=
  ∃ requests, m' = m.recorded requests ∧
    List.Forall₂ (Step.Landed targets visits) (steps.filter (Step.lands visits)) requests

namespace LandInOrder

variable {visits more : List Visit} {steps : List Step} {m m' : InMemory}

theorem nil (targets : List String) (visits : List Visit) (m : InMemory) :
    LandInOrder targets visits [] m m := ⟨[], m.recorded_nil.symm, .nil⟩

/-- Calls for other steps change nothing. -/
theorem append_calls (h : LandInOrder targets visits steps m m')
    (hmore : ∀ v ∈ more, ∀ step ∈ steps, v.step.id ≠ step.id) :
    LandInOrder targets (visits ++ more) steps m m' := by
  obtain ⟨requests, hrequests, hlanded⟩ := h
  refine ⟨requests, hrequests, ?_⟩
  have hsame : steps.filter (Step.lands (visits ++ more)) = steps.filter (Step.lands visits) :=
    List.filter_congr fun step hstep => Step.lands_append_of_ne fun v hv => hmore v hv step hstep
  rw [hsame]
  exact hlanded.imp fun _ _ hone => hone.append more

/-- Steps that land nothing change nothing. -/
theorem append_idle (h : LandInOrder targets visits steps m m') {idle : List Step}
    (hidle : ∀ step ∈ idle, step.lands visits = false) :
    LandInOrder targets visits (steps ++ idle) m m' := by
  have hnone : idle.filter (Step.lands visits) = [] := by
    rw [List.filter_eq_nil_iff]
    intro step hstep
    rw [hidle step hstep]
    exact Bool.false_ne_true
  rw [LandInOrder, List.filter_append, hnone, List.append_nil]
  exact h

/-- A step that lands a transaction adds it at the end. -/
theorem append_landed (h : LandInOrder targets visits steps m m') {step : Step}
    (hstep : step.lands visits = true) {request : TransactionRequest}
    (hlanded : step.Landed targets visits request) :
    LandInOrder targets visits (steps ++ [step]) m (m'.recorded [request]) := by
  obtain ⟨requests, rfl, hall⟩ := h
  refine ⟨requests ++ [request], InMemory.recorded_recorded m requests [request], ?_⟩
  rw [List.filter_append, List.filter_singleton, hstep]
  exact List.rel_append hall (.cons hlanded .nil)

end LandInOrder

/-! ### Attempts at one step -/

variable {step : Step} {c : Context} {s : InMemory × τ}

/-- Attempts that fail leave the services as they are, one after the other. -/
theorem Step.worldAfter_of_errors (hm : s.1.Restricts targets) {n : Nat}
    (h : ∀ i < n, ∃ e, Act.outcomeAt (step.perform (InMemory.services send) channel c) i s
      = .error e) :
    (Act.worldAfter (step.perform (InMemory.services send) channel c) n s).1 = s.1 := by
  induction n with
  | zero => rfl
  | succ n ih =>
    have hsame := ih fun i hi => h i (Nat.lt_succ_of_lt hi)
    obtain ⟨e, he⟩ := h n (Nat.lt_succ_self n)
    rw [Act.worldAfter_succ, InMemory.perform_of_error (hsame.symm ▸ hm) he, hsame]

/-- A step whose attempts fail up to the last one either lands its transaction with that one, or
leaves the services as they are. -/
theorem Step.lands_or_leaves (hm : s.1.Restricts targets) {last : Nat}
    (h : ∀ i < last, ∃ e, Act.outcomeAt (step.perform (InMemory.services send) channel c) i s
      = .error e) :
    (∃ output request, step.IsOnchain ∧
      Act.outcomeAt (step.perform (InMemory.services send) channel c) last s = .ok output ∧
      InMemory.Lands targets step c request ∧
      (Act.worldAfter (step.perform (InMemory.services send) channel c) (last + 1) s).1
        = s.1.recorded [request]) ∨
    (¬ step.IsOnchain ∨
      ∃ e, Act.outcomeAt (step.perform (InMemory.services send) channel c) last s = .error e) ∧
      (Act.worldAfter (step.perform (InMemory.services send) channel c) (last + 1) s).1 = s.1 := by
  -- Failed attempts change nothing, so that all depends on the last one.
  have hsame := Step.worldAfter_of_errors hm h
  have hm' := hsame.symm ▸ hm
  rw [Act.worldAfter_succ]
  cases hout : Act.outcomeAt (step.perform (InMemory.services send) channel c) last s with
  | error e =>
    refine .inr ⟨.inr ⟨e, rfl⟩, ?_⟩
    rw [InMemory.perform_of_error hm' hout, hsame]
  | ok output =>
    cases hprepare : step.prepare? c with
    | none =>
      have hnot : ¬ step.IsOnchain := by
        rw [step.isOnchain_iff c, hprepare]
        exact nofun
      refine .inr ⟨.inl hnot, ?_⟩
      rw [InMemory.perform_of_prepare?_eq_none hprepare, hsame]
    | some prepared =>
      obtain ⟨request, hlands, hrecorded⟩ := InMemory.perform_of_ok hm' hprepare hout
      refine .inl ⟨output, request, (step.isOnchain_iff c).mpr ⟨prepared, hprepare⟩, rfl, hlands,
        ?_⟩
      rw [hrecorded, hsame]

/-! ### The ledger of a run -/

/-- What holds of a run with restricted services when some steps have been executed. -/
structure Ledger (targets : List String) (m : InMemory) (executed : List Step)
    (q : Progress ((InMemory × τ) × List Visit)) : Prop where
  /-- No other steps were called. -/
  called : ∀ v ∈ q.world.2, v.step ∈ executed
  /-- There is one transaction for each of them that lands one. -/
  recorded : LandInOrder targets q.world.2 executed m q.world.1.1

theorem Ledger.start (targets : List String) (m : InMemory) (c : Context) (t : τ) :
    Ledger targets m [] { context := c, world := ((m, t), []) } where
  called _ hv := absurd hv List.not_mem_nil
  recorded := .nil targets [] m

/-- The calls for a step put the step on the ledger. -/
theorem Ledger.next {m : InMemory} (hm : m.Restricts targets) {before after : List Step}
    {q q' : Progress ((InMemory × τ) × List Visit)} {halt : Option Halt}
    (h : Ledger targets m before q) (hkeyed : Step.Keyed (before ++ step :: after))
    (hrun : runStep (noting (Step.perform (InMemory.services send) channel)) options step q
      = (q', halt)) : Ledger targets m (before ++ [step]) q' := by
  obtain ⟨last, hattempted, hworld⟩ := world_runStep_noting
    (Step.perform (InMemory.services send) channel) options step q
  rw [hrun] at hworld
  have hfail : ∀ i < last, ∃ e, Act.outcomeAt
      (step.perform (InMemory.services send) channel q.context) i q.world.1 = .error e := by
    intro i hi
    obtain ⟨e, -, -, he, -⟩ := hattempted.repeated i hi
    exact ⟨e, (outcomeAt_noting _ step q.context i q.world.1 q.world.2).symm.trans he⟩
  constructor
  case called =>
    intro v hv
    rw [hworld] at hv
    rcases List.mem_append.mp hv with hv | hv
    · exact List.mem_append_left [step] (h.called v hv)
    · rw [(mem_firstCalls hv).1]
      exact List.mem_append_right before (List.mem_singleton_self step)
  case recorded =>
    -- The calls for this step say how it ended and nothing about the steps before it.
    have hout := outcomeOf?_append_firstCalls q.world.2
      (Step.perform (InMemory.services send) channel) step q.context q.world.1 last
    have hbefore : LandInOrder targets q'.world.2 before m q.world.1.1 := by
      rw [hworld]
      refine h.recorded.append_calls fun v hv earlier hearlier => ?_
      rw [(mem_firstCalls hv).1]
      exact id_ne_of_keyed hkeyed earlier hearlier
    have hrestricts : q.world.1.1.Restricts targets := by
      obtain ⟨requests, hrequests, -⟩ := h.recorded
      rw [hrequests]
      exact hm
    rcases Step.lands_or_leaves hrestricts hfail with
      ⟨output, request, honchain, hok, hlands, hrecorded⟩ | ⟨hnot, hsame⟩
    · have hstep : step.lands q'.world.2 = true := by
        rw [Step.lands, decide_eq_true honchain, Bool.true_and, Step.succeeded_iff, hworld]
        exact ⟨output, hout.trans (congrArg some hok)⟩
      have hlanded : step.Landed targets q'.world.2 request := by
        refine ⟨⟨step, q.context, _⟩, ?_, rfl, ⟨output, hok⟩, hlands⟩
        rw [hworld]
        exact List.mem_append_right _ (List.mem_map_of_mem (List.mem_range.mpr last.lt_succ_self))
      rw [show q'.world.1.1 = q.world.1.1.recorded [request] from by rw [hworld, hrecorded]]
      exact hbefore.append_landed hstep hlanded
    · have hstep : step.lands q'.world.2 = false := by
        rw [Step.lands]
        rcases hnot with hother | ⟨e, he⟩
        · rw [decide_eq_false hother, Bool.false_and]
        · rw [hworld, Step.succeeded_of_error (hout.trans (congrArg some he)), Bool.and_false]
      rw [show q'.world.1.1 = q.world.1.1 from by rw [hworld, hsame]]
      exact hbefore.append_idle (List.forall_mem_singleton.mpr hstep)

/-- The ledger of the steps that were executed is that of all steps. -/
theorem Ledger.whole {m : InMemory} {executed after : List Step}
    {q : Progress ((InMemory × τ) × List Visit)} (h : Ledger targets m executed q)
    (hids : ((executed ++ after).map (·.id)).Nodup) :
    LandInOrder targets q.world.2 (executed ++ after) m q.world.1.1 := by
  refine h.recorded.append_idle fun step hstep => Step.lands_of_not_called fun v hv => ?_
  rw [List.map_append, List.nodup_append] at hids
  exact hids.2.2 _ (List.mem_map_of_mem (h.called v hv)) _ (List.mem_map_of_mem hstep)

/-- What a run has recorded when its steps have been executed as far as they are. -/
theorem landInOrder_of_runSteps {steps : List Step} (hkeyed : Step.Keyed steps) {m : InMemory}
    (hm : m.Restricts targets) {q p : Progress ((InMemory × τ) × List Visit)}
    {halt : Option Halt} (hq : Ledger targets m [] q)
    (hrun : runSteps (noting (Step.perform (InMemory.services send) channel)) options steps q
      = (p, halt)) : LandInOrder targets p.world.2 steps m p.world.1.1 := by
  have hids := hkeyed.ids_nodup
  have hnext : ∀ before step after q q', steps = before ++ step :: after →
      Ledger targets m before q →
      runStep (noting (Step.perform (InMemory.services send) channel)) options step q
        = (q', none) → Ledger targets m (before ++ [step]) q' := by
    intro before step after q q' hsteps hledger hone
    exact hledger.next hm (hsteps ▸ hkeyed) hone
  rcases runSteps_invariant hq hnext hrun with
    ⟨-, hledger⟩ | ⟨before, step, after, q', halt, hsteps, hledger, hone, -⟩
  · exact hledger.recorded
  · -- The step that halts the run is on the ledger, too; the steps behind it were not called.
    have hlast := hledger.next hm (hsteps ▸ hkeyed) hone
    have hsplit : steps = (before ++ [step]) ++ after := by
      rw [hsteps, List.append_assoc, List.singleton_append]
    rw [hsplit] at hids ⊢
    exact hlast.whole hids

theorem landInOrder_of_run {d : Definition} (hkeyed : Step.Keyed d.steps) (now : Value)
    (params : RunParams) {m : InMemory} (hm : m.Restricts targets) (t : τ) :
    LandInOrder targets
      (d.visits (Step.perform (InMemory.services send) channel) options now params (m, t)) d.steps
      m
      (d.run (Step.perform (InMemory.services send) channel) options now params
        (m, t)).world.1 := by
  rw [run_noting d _ options now params (m, t) [], Definition.visits, Definition.run]
  cases Context.start params options now with
  | error e =>
    -- Without a context no step is called.
    refine (LandInOrder.nil targets [] m).append_idle fun step _ => ?_
    exact Step.lands_of_not_called fun v hv => absurd hv List.not_mem_nil
  | ok c =>
    exact landInOrder_of_runSteps hkeyed hm (Ledger.start targets m c t) rfl

/-- **Allow-list safety.** In every run of a definition that passes its check, services in memory
that are restricted to some targets record one transaction for each on-chain step that succeeded,
in the order of the steps, and nothing else.  It is the transaction that the step has prepared;
reading it gives back the calls of the step up to case, and all of them are to allowed targets.
Whether a step succeeded is what the result of the run says, if it has one.  A transaction with a
call to any other target is turned away, and nothing is recorded. -/
theorem allow_list_safety {d : Definition} {version : Value}
    (hvalid : (d.check version).valid = true) {m : InMemory} (hm : m.Restricts targets)
    (send : Http.Request → Act τ Http.Response) (channel : Http.Channel) (options : Options)
    (now : Value) (params : RunParams) (t : τ) :
    LandInOrder targets
        (d.visits (Step.perform (InMemory.services send) channel) options now params (m, t))
        d.steps m
        (d.run (Step.perform (InMemory.services send) channel) options now params
          (m, t)).world.1 ∧
      (∀ r, (d.run (Step.perform (InMemory.services send) channel) options now params
          (m, t)).outcome = .ok r → ∀ step ∈ d.steps,
        (step.succeeded
            (d.visits (Step.perform (InMemory.services send) channel) options now params (m, t))
          = true ↔ ∃ entry ∈ r.stepResults, entry.1 = step.id ∧ entry.2.success = true)) ∧
      ∀ m' : InMemory, m'.Restricts targets → ∀ request calls, request.calls = .ok calls →
        (∃ call ∈ calls, ¬ call.IsTo targets) → ∃ call ∈ calls, ¬ call.IsTo targets ∧
          InMemory.execute request m' = (.error (.fault (.targetNotAllowed call.target)), m') := by
  refine ⟨landInOrder_of_run (keyed_of_check hvalid) now params hm t, ?_, ?_⟩
  · intro r hr step hstep
    exact succeeded_iff_entry hvalid hr hstep
  · rintro m' hm' request calls hcalls ⟨call, hcall, hnot⟩
    exact InMemory.execute_of_forbidden hm' hcalls fun hall => hnot (hall call hcall)

/-- A payment to an allowed target, and one to another target that may fail. -/
def guardedPayment : Definition :=
  { version := "1.0"
    steps :=
      [⟨{ id := "pay", outputAs := "paid", onError := .retry },
          .onchain (some { target := "0x00000000000000000000000000000000000000AA"
                           calldata := some "0x1234" })⟩,
        ⟨{ id := "leak", outputAs := "leaked", onError := .skip },
          .onchain (some { target := "0x00000000000000000000000000000000000000bb"
                           calldata := some "0x" })⟩] }

/-- A client that sends nothing. -/
def offline : Http.Request → Act Unit Http.Response := fun _ s => (.error (.fault .notTexts), s)

/-- Services that allow the target of the first payment. -/
def paymentServices : InMemory :=
  { allowedTargets := some ["0x00000000000000000000000000000000000000aa"] }

/-- Only the first payment is recorded, with its target in lower case. -/
theorem allow_list_safety_guardedPayment :
    (guardedPayment.check (.text "1.0")).valid = true ∧
      paymentServices.Restricts ["0x00000000000000000000000000000000000000aA"] ∧
      ∃ request, (guardedPayment.run (Step.perform (InMemory.services offline) .shared) {}
          (.int 0) ⟨.null, .null, .null, .null, .null⟩ (paymentServices, ())).world.1
            = paymentServices.recorded [request] ∧
        ∃ calls, request.calls = .ok calls ∧
          ∀ call ∈ calls, call.IsTo ["0x00000000000000000000000000000000000000aA"] := by
  have hvalid : (guardedPayment.check (.text "1.0")).valid = true := by decide
  have hlower : Text.lower "0x00000000000000000000000000000000000000aA"
      = "0x00000000000000000000000000000000000000aa" := by decide
  have hrestricts : paymentServices.Restricts ["0x00000000000000000000000000000000000000aA"] := by
    rw [InMemory.Restricts, List.map_singleton, hlower, paymentServices]
  have hcount : (guardedPayment.run (Step.perform (InMemory.services offline) .shared) {}
      (.int 0) ⟨.null, .null, .null, .null, .null⟩
      (paymentServices, ())).world.1.transactions.length = 1 := by decide +kernel
  obtain ⟨requests, hworld, hlanded⟩ := (allow_list_safety hvalid hrestricts offline .shared {}
    (.int 0) ⟨.null, .null, .null, .null, .null⟩ ()).1
  rw [hworld] at hcount ⊢
  obtain ⟨request, rfl⟩ : ∃ request, requests = [request] := List.length_eq_one_iff.mp hcount
  obtain ⟨step, -, ⟨v, -, -, -, hlands⟩, -, -⟩ := List.forall₂_cons_right_iff.mp hlanded
  obtain ⟨calls, -, hcalls, hto⟩ := hlands.carried
  exact ⟨hvalid, hrestricts, request, rfl, _, hcalls, hto⟩

end Workflow
