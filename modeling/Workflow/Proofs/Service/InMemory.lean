import Workflow.Proofs.Call.Prepared

/-!
# Transactions that services in memory record

Services in memory execute a transaction by reading its calls and, if targets are restricted,
comparing each target with the allowed ones.  A transaction with any other target is turned away
and nothing is recorded (`execute_of_forbidden`); otherwise it is recorded and answered with a
receipt (`execute_of_allowed`).

For attempts at steps this means that one that fails leaves the services as they are
(`perform_of_error`), and one that succeeds at an on-chain step records the transaction that the
step has prepared, whose calls all have allowed targets (`perform_of_ok`).
-/

namespace Workflow

/-- A call to one of some targets, in whatever case they are written. -/
def Call.IsTo (call : Call) (targets : List String) : Prop :=
  ∃ target ∈ targets, Text.lower call.target = Text.lower target

namespace InMemory

/-- Services with further transactions recorded. -/
def recorded (m : InMemory) (requests : List TransactionRequest) : InMemory :=
  { m with transactions := m.transactions ++ requests }

@[simp] theorem recorded_nil (m : InMemory) : m.recorded [] = m := by
  simp [recorded]

@[simp] theorem recorded_recorded (m : InMemory) (requests more : List TransactionRequest) :
    (m.recorded requests).recorded more = m.recorded (requests ++ more) := by
  simp [recorded]

/-- Services that are given some targets as the only allowed ones. -/
def Restricts (m : InMemory) (targets : List String) : Prop :=
  m.allowedTargets = some (targets.map Text.lower)

/-- Services are restricted to the targets that they are created with. -/
theorem restricts_of_create {proxies : List (String × StoredProxy)} {targets : List String}
    {m : InMemory} (h : create proxies (.list (targets.map .text)) = .ok m) :
    m.Restricts targets ∧ m.transactions = [] := by
  have hlower : (targets.map Value.text).mapM lowerTarget
      = .ok ((targets.map Text.lower).map Value.text) := by
    rw [List.mapM_map, Outcome.mapM_eq_ok_iff, List.forall₂_map_right_iff,
      List.forall₂_map_right_iff, List.forall₂_same]
    exact fun target _ => rfl
  have htexts : ((targets.map Text.lower).map Value.text).filterMap Value.text?
      = targets.map Text.lower := by
    rw [List.filterMap_map]
    exact List.filterMap_some
  have htargets : targetsIn (.list (targets.map .text)) = .ok (some (targets.map Text.lower)) := by
    show ((targets.map Value.text).mapM lowerTarget).map _ = _
    rw [hlower, Except.map, htexts]
  rw [create, htargets] at h
  obtain rfl := Except.ok.inj h
  exact ⟨rfl, rfl⟩

/-! ### Executing -/

variable {m : InMemory} {targets : List String} {request : TransactionRequest} {calls : List Call}

theorem notListed_iff {call : Call} :
    (!(targets.map Text.lower).contains (Text.lower call.target)) = true ↔
      ¬ call.IsTo targets := by
  rw [Bool.not_eq_true', Bool.eq_false_iff, ne_eq, List.contains_iff_mem, List.mem_map, Call.IsTo]
  exact not_congr (exists_congr fun target => and_congr_right fun _ => eq_comm)

theorem forbiddenTarget?_eq_none_iff (hm : m.Restricts targets) :
    m.forbiddenTarget? calls = none ↔ ∀ call ∈ calls, call.IsTo targets := by
  rw [forbiddenTarget?, hm, Option.map_eq_none_iff, List.find?_eq_none]
  exact forall₂_congr fun call _ => by rw [notListed_iff, not_not]

theorem exists_of_forbiddenTarget? (hm : m.Restricts targets) {target : String}
    (h : m.forbiddenTarget? calls = some target) :
    ∃ call ∈ calls, ¬ call.IsTo targets ∧ call.target = target := by
  rw [forbiddenTarget?, hm] at h
  obtain ⟨call, hfind, htarget⟩ := Option.map_eq_some_iff.mp h
  have hnot := List.find?_eq_some_iff_append.mp hfind
  exact ⟨call, List.mem_of_find?_eq_some hfind, notListed_iff.mp hnot.1, htarget⟩

/-- A transaction with a target that is not allowed is turned away for such a target, and nothing
is recorded. -/
theorem execute_of_forbidden (hm : m.Restricts targets) (hcalls : request.calls = .ok calls)
    (h : ¬ ∀ call ∈ calls, call.IsTo targets) :
    ∃ call ∈ calls, ¬ call.IsTo targets ∧
      execute request m = (.error (.fault (.targetNotAllowed call.target)), m) := by
  cases hforbidden : m.forbiddenTarget? calls with
  | none => exact absurd ((forbiddenTarget?_eq_none_iff hm).mp hforbidden) h
  | some target =>
    obtain ⟨call, hmem, hnot, rfl⟩ := exists_of_forbiddenTarget? hm hforbidden
    refine ⟨call, hmem, hnot, ?_⟩
    simp only [execute, hcalls, hforbidden]

/-- A prepared transaction with allowed targets only is recorded and answered with a receipt. -/
theorem execute_of_allowed {p : Prepared} {ops : List Operation} (hm : m.Restricts targets)
    (hp : p.Carries calls ops) (h : ∀ call ∈ calls.map Call.lower, call.IsTo targets) :
    ∃ txHash, execute p.request m = (.ok (.receipt (.text txHash)), m.recorded [p.request]) := by
  obtain ⟨bs, hpayload⟩ := hp.payload
  have hhash : payloadHash p.request.executionData = .ok (Hex.ofBytes (Keccak.hash bs)) := by
    have hbytes : bytesOfHex (Hex.ofBytes bs) = .ok bs :=
      Outcome.mapError_eq_ok_iff.mpr (Hex.toBytes_ofBytes bs)
    rw [hpayload, payloadHash, hbytes]
    rfl
  refine ⟨Hex.ofBytes (Keccak.hash bs), ?_⟩
  simp only [execute, hp.calls_eq, (forbiddenTarget?_eq_none_iff hm).mpr h, hhash]
  rfl

/-! ### Attempts at steps -/

variable {τ : Type} {send : Http.Request → Act τ Http.Response} {s : InMemory × τ}

/-- What is submitted either is not recorded and fails, or is recorded as a whole. -/
theorem submitPrepared_services {p : Prepared} {ops : List Operation}
    (hm : s.1.Restricts targets) (hp : p.Carries calls ops) :
    (∃ e, submitPrepared (services send) (.ok p) s = (.error e, s)) ∨
      (∀ call ∈ calls.map Call.lower, call.IsTo targets) ∧ ∃ output,
        submitPrepared (services send) (.ok p) s
          = (.ok output, s.1.recorded [p.request], s.2) := by
  have hsubmit : (services send).submit p.request s
      = ((execute p.request s.1).1, (execute p.request s.1).2, s.2) := rfl
  by_cases h : ∀ call ∈ calls.map Call.lower, call.IsTo targets
  · obtain ⟨txHash, hexecute⟩ := execute_of_allowed hm hp h
    rw [hexecute] at hsubmit
    refine .inr ⟨h, transactionOutput (.text txHash), ?_⟩
    rw [submitPrepared, Act.done_ok_andThen, submitTransaction, Act.mapOutcome, Act.mapOutcome,
      hsubmit]
    rfl
  · obtain ⟨call, -, -, hexecute⟩ := execute_of_forbidden hm hp.calls_eq h
    rw [hexecute] at hsubmit
    refine .inl ⟨judgeSubmission p.calls (.fault (.targetNotAllowed call.target)), ?_⟩
    rw [submitPrepared, Act.done_ok_andThen, submitTransaction, Act.mapOutcome, Act.mapOutcome,
      hsubmit]
    rfl

/-- How a transaction comes from a step in a context: the step has prepared it, reading it gives
back the calls that the step has built, and all of them are to allowed targets. -/
structure Lands (targets : List String) (step : Step) (c : Context)
    (request : TransactionRequest) : Prop where
  /-- The step has prepared it. -/
  prepared : ∃ names, step.prepare? c = some (.ok ⟨request, names⟩)
  /-- It carries the calls of the step, to allowed targets. -/
  carried : ∃ calls, step.builtCalls c = .ok calls ∧
    request.calls = .ok (calls.map Call.lower) ∧ ∀ call ∈ calls.map Call.lower, call.IsTo targets

variable {channel : Http.Channel} {step : Step} {c : Context}

/-- Lookups and requests leave the services as they are. -/
theorem httpKeeps (send : Http.Request → Act τ Http.Response) (m : InMemory) :
    (services send).HttpKeeps fun s => s.1 = m :=
  ⟨⟨fun _ _ hs => hs, fun _ _ hs => hs⟩, fun _ _ hs => hs⟩

/-- A step that submits nothing leaves the services as they are. -/
theorem perform_of_prepare?_eq_none (h : step.prepare? c = none) :
    (step.perform (services send) channel c s).2.1 = s.1 := by
  rw [Step.prepare?] at h
  rw [step.perform_eq]
  cases haction : step.action with
  | http config => exact Http.runStep_keeps (httpKeeps send s.1) channel step.id config c s rfl
  | onchain op => rw [haction] at h; cases h
  | onchainBatch ops => rw [haction] at h; cases h
  | condition config => rfl
  | transform e => rfl

/-- An attempt that fails leaves the services as they are. -/
theorem perform_of_error (hm : s.1.Restricts targets) {e : Failure}
    (h : (step.perform (services send) channel c s).1 = .error e) :
    (step.perform (services send) channel c s).2.1 = s.1 := by
  cases hprepare : step.prepare? c with
  | none => exact perform_of_prepare?_eq_none hprepare
  | some prepared =>
    rw [Step.perform_of_prepare? hprepare] at h ⊢
    cases prepared with
    | error e => rfl
    | ok p =>
      obtain ⟨calls, -, -, hcarries⟩ := Step.carries_of_prepare? hprepare
      rcases submitPrepared_services hm hcarries with ⟨e', hfail⟩ | ⟨-, output, hok⟩
      · rw [hfail]
      · rw [hok] at h
        cases h

/-- An attempt that succeeds at an on-chain step records the transaction of the step. -/
theorem perform_of_ok (hm : s.1.Restricts targets) {prepared : Except Failure Prepared}
    (hprepare : step.prepare? c = some prepared) {output : Value}
    (h : (step.perform (services send) channel c s).1 = .ok output) :
    ∃ request, Lands targets step c request ∧
      (step.perform (services send) channel c s).2.1 = s.1.recorded [request] := by
  rw [Step.perform_of_prepare? hprepare] at h ⊢
  cases prepared with
  | error e => cases h
  | ok p =>
    obtain ⟨calls, hcalls, -, hcarries⟩ := Step.carries_of_prepare? hprepare
    rcases submitPrepared_services hm hcarries with ⟨e', hfail⟩ | ⟨hallowed, output', hok⟩
    · rw [hfail] at h
      cases h
    · refine ⟨p.request, ⟨⟨p.calls, hprepare⟩, calls, hcalls, hcarries.calls_eq, hallowed⟩, ?_⟩
      rw [hok]

end InMemory

end Workflow
