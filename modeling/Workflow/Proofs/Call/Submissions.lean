import Workflow.Proofs.Call.Prepared
import Workflow.Proofs.Service.Noting

/-!
# What on-chain steps submit

An attempt at an on-chain step either fails before anything is submitted or submits a transaction
that depends on the context alone, so that every attempt at the step submits the same one.  The
submissions of a step are then as many as its attempts, and each is followed by another one exactly
if the step tries again after what it makes of the outcome (`Step.Submits`).

Two results follow.  A denial ends the step (`denial_ends_step`).  A transaction that was accepted
is submitted again exactly if what came back is no receipt, the step is to be tried again and has
attempts left (`submitted_again_iff`): what is no receipt counts as a failed submission, although
the transaction is on its way.
-/

namespace Workflow

variable {σ : Type}

/-! ### Prepared transactions -/

/-- What a step makes of the outcome of a submission. -/
def Prepared.judged (p : Prepared) (outcome : Except Failure Value) : Except Failure Value :=
  (judgeOutcome p.calls outcome).map transactionOutput

theorem Prepared.judged_error (p : Prepared) (e : Failure) :
    p.judged (.error e) = .error (judgeSubmission p.calls e) := rfl

theorem Prepared.judged_ok (p : Prepared) (receipt : Value) :
    p.judged (.ok receipt) = (receiptHash receipt).map transactionOutput := rfl

theorem submitPrepared_ok (services : Services σ) (p : Prepared) (s : σ) :
    submitPrepared services (.ok p) s
      = (p.judged (services.submit p.request s).1, (services.submit p.request s).2) := rfl

theorem worldAfter_submitPrepared (services : Services σ) (p : Prepared) (n : Nat) (s : σ) :
    Act.worldAfter (submitPrepared services (.ok p)) n s
      = Act.worldAfter (services.submit p.request) n s := by
  induction n generalizing s with
  | zero => rfl
  | succ n ih =>
    rw [Act.worldAfter, Act.worldAfter, submitPrepared_ok]
    exact ih _

theorem outcomeAt_submitPrepared (services : Services σ) (p : Prepared) (n : Nat) (s : σ) :
    Act.outcomeAt (submitPrepared services (.ok p)) n s
      = p.judged (Act.outcomeAt (services.submit p.request) n s) := by
  rw [Act.outcomeAt, worldAfter_submitPrepared, submitPrepared_ok]
  rfl

/-! ### The submissions of a step -/

/-- How submissions belong to the attempts at a step that has prepared a transaction. -/
structure Step.Submits (step : Step) (options : Options) (p : Prepared) (a : Attempts σ)
    (made : List Submission) : Prop where
  /-- Every attempt submits once. -/
  length_eq : made.length = a.count
  /-- A submission is followed by another one exactly if the step tries again after it. -/
  followed_iff : ∀ front v back, made = front ++ v :: back →
    (back ≠ [] ↔ step.TriesAgain options front.length (p.judged v.outcome))
  /-- The step ends as its last submission does, unless the number of attempts or the pause between
  them is beyond reckoning. -/
  ended : ∀ front v, made = front ++ [v] →
    a.outcome = .ended (p.judged v.outcome) ∨
      ∃ e broken, p.judged v.outcome = .error e ∧ a.outcome = .broken broken ∧
        (step.retries options = .error broken ∨
          e.isTransient = true ∧ options.retryBackoff.doubled front.length = .error broken)

variable {step : Step} {services : Services σ} {channel : Http.Channel} {options : Options}
  {c : Context} {s : σ}

/-- A step that cannot prepare its transaction submits nothing. -/
theorem submissions_of_error {e : Failure}
    (hact : submitting services channel step c
      = submitPrepared (services.noting step) (.error e)) :
    step.submissions services channel options c s = [] := by
  obtain ⟨last, h⟩ := step.attempt_attempted options (submitting services channel step c) (s, [])
  have hkept : ∀ t : σ × List Submission, t.2 = [] →
      (submitting services channel step c t).2.2 = [] := by
    intro t ht
    rw [hact]
    exact ht
  rw [Step.submissions, h.world_eq]
  exact Act.worldAfter_invariant hkept (last + 1) rfl

/-- A step that can prepare its transaction submits it at each attempt. -/
theorem submissions_of_ok {p : Prepared} {last : Nat}
    (hact : submitting services channel step c = submitPrepared (services.noting step) (.ok p))
    (h : step.Attempted options (submitting services channel step c) (s, [])
      (step.attempt options (submitting services channel step c) (s, [])) last) :
    step.submissions services channel options c s
      = (List.range (last + 1)).map fun i =>
        ⟨step, p.request, Act.outcomeAt (services.submit p.request) i s⟩ := by
  rw [Step.submissions, h.world_eq, hact, worldAfter_submitPrepared]
  simp only [Services.noting, Act.worldAfter_noted, List.nil_append]

/-- The number of a submission is that of the attempt that makes it. -/
theorem outcomeAt_of_submissions {p : Prepared} {last : Nat}
    (hact : submitting services channel step c = submitPrepared (services.noting step) (.ok p))
    (h : step.Attempted options (submitting services channel step c) (s, [])
      (step.attempt options (submitting services channel step c) (s, [])) last)
    {front back : List Submission} {v : Submission}
    (hsplit : step.submissions services channel options c s = front ++ v :: back) :
    front.length + back.length = last ∧
      Act.outcomeAt (submitting services channel step c) front.length (s, [])
        = p.judged v.outcome := by
  have hmade := submissions_of_ok hact h
  have hsum : front.length + back.length = last := by
    have hlength := congrArg List.length (hsplit.symm.trans hmade)
    rw [List.length_append, List.length_cons, List.length_map, List.length_range] at hlength
    omega
  refine ⟨hsum, ?_⟩
  have hv : (step.submissions services channel options c s)[front.length]? = some v := by
    rw [hsplit]
    simp
  rw [hmade, List.getElem?_map, List.getElem?_range (by omega)] at hv
  rw [hact, outcomeAt_submitPrepared, ← Option.some.inj hv]
  exact congrArg p.judged (Act.outcomeAt_noted _ _ front.length s [])

/-- An on-chain step submits nothing, or the transaction that it has prepared. -/
theorem Step.IsOnchain.submits (honchain : step.IsOnchain) (services : Services σ)
    (channel : Http.Channel) (options : Options) (c : Context) (s : σ) :
    step.submissions services channel options c s = [] ∨ ∃ p, step.prepare? c = some (.ok p) ∧
      step.Submits options p (step.attempt options (step.perform services channel c) s)
        (step.submissions services channel options c s) := by
  obtain ⟨prepared, hprepare⟩ := (step.isOnchain_iff c).mp honchain
  have hact : submitting services channel step c
      = submitPrepared (services.noting step) prepared := Step.perform_of_prepare? hprepare _ _
  -- Only a step that has prepared its transaction comes to submit it.
  cases prepared with
  | error e => exact Or.inl (submissions_of_error hact)
  | ok p =>
    right
    obtain ⟨last, h⟩ := step.attempt_attempted options (submitting services channel step c) (s, [])
    rw [attempt_submitting step services channel options c s []]
    refine ⟨p, hprepare, ?_⟩
    constructor
    case length_eq =>
      rw [submissions_of_ok hact h, List.length_map, List.length_range]
      exact h.count_eq.symm
    case followed_iff =>
      intro front v back hsplit
      obtain ⟨hsum, houtcome⟩ := outcomeAt_of_submissions hact h hsplit
      have hlt : front.length
          < (step.attempt options (submitting services channel step c) (s, [])).count := by
        rw [h.count_eq]
        omega
      rw [← houtcome, ← h.succ_lt_count_iff hlt, h.count_eq, ← List.length_pos_iff]
      omega
    case ended =>
      intro front v hsplit
      obtain ⟨hsum, houtcome⟩ := outcomeAt_of_submissions hact h hsplit
      have hended := h.ended
      rw [List.length_nil, Nat.add_zero] at hsum
      rw [← hsum, houtcome] at hended
      exact hended

/-! ### Denials -/

namespace Step.Submits

variable {p : Prepared} {a : Attempts σ} {made front back : List Submission} {v : Submission}
  {what : Denied} {e : Failure}

end Step.Submits

/-- A payment of nothing that is to be tried again. -/
def payment : Step :=
  ⟨{ id := "pay", onError := .retry },
    .onchain (some { target := "0x00000000000000000000000000000000000000aa",
                     calldata := some "0x" })⟩

/-- A context without anything in it. -/
def emptyContext : Context :=
  ⟨⟨.null, .null, .null, .null, .null⟩, .record [], 0, .int 300, .int 3600, .int 86400, []⟩

/-- Services that fail to submit, at first in a way that may pass, and then for good. -/
def closing : Services Nat where
  findProxy _ := Act.done (.ok none)
  revealHeaders _ := Act.done (.ok [])
  send _ n := (.error (.fault .notTexts), n)
  submit _ n :=
    let text := if n = 0 then "nonce too low" else "reverted with 0xe356c1d3"
    (.error (.fault (.reported .runtime [.text text])), n + 1)

/-- **Submitted again.** In a run, a transaction that was accepted is submitted again for the same
step exactly if what came back is no receipt, the step is to be tried again, it has attempts left
and the pause can be reckoned. -/
theorem submitted_again_iff (d : Definition) (services : Services σ) (channel : Http.Channel)
    (options : Options) (now : Value) (params : RunParams) (s : σ) {before after : List Step}
    {step : Step} (hsteps : d.steps = before ++ step :: after) (honchain : step.IsOnchain) :
    ∃ earlier made later,
      d.submissions services channel options now params s = earlier ++ made ++ later ∧
      (∀ v ∈ earlier, v.step ∈ before) ∧ (∀ v ∈ made, v.step = step) ∧
      (∀ v ∈ later, v.step ∈ after) ∧
      ∀ front v back receipt, made = front ++ v :: back → v.outcome = .ok receipt →
        (back ≠ [] ↔ (∃ e, receiptHash receipt = .error e) ∧ step.onError = .retry ∧
          (∃ limit, options.retries.count = .ok limit ∧ front.length < limit) ∧
          ∃ pause, options.retryBackoff.doubled front.length = .ok pause) := by
  obtain ⟨earlier, made, later, hsplit, hearlier, hlater, hmade⟩ :=
    submissions_split d services channel options now params s hsteps
  refine ⟨earlier, made, later, hsplit, hearlier, ?_, hlater, ?_⟩
  · rcases hmade with rfl | ⟨c, s', rfl⟩
    · simp
    · exact fun v hv => step_of_mem_submissions hv
  · intro front v back receipt hfront hv
    rcases hmade with rfl | ⟨c, s', rfl⟩
    · simp at hfront
    rcases honchain.submits services channel options c s' with hnone | ⟨p, -, hsubmits⟩
    · rw [hnone] at hfront
      simp at hfront
    rw [hsubmits.followed_iff front v back hfront, hv, Prepared.judged_ok, Step.triesAgain_iff]
    -- What is no receipt counts as a failure of the outside service, which may pass.
    have hfailed : (∃ e, (receiptHash receipt).map transactionOutput = .error e ∧
        e.isTransient = true) ↔ ∃ e, receiptHash receipt = .error e := by
      cases hreceipt : receiptHash receipt with
      | ok txHash => simp [Except.map]
      | error e =>
        have hmay : e.isTransient = true := by
          rw [Failure.isTransient_iff]
          exact Or.inl (kind?_of_receiptHash_eq_error hreceipt)
        simp [Except.map, hmay]
    rw [hfailed]
    exact and_left_comm

/-- The payment as all of a definition. -/
def paymentOnly : Definition := { version := "1.0", steps := [payment] }

/-- Services that accept every transaction and answer with something that is no receipt. -/
def vague : Services Unit where
  findProxy _ := Act.done (.ok none)
  revealHeaders _ := Act.done (.ok [])
  send _ s := (.error (.fault .notTexts), s)
  submit _ s := (.ok (.record [("hash", .text "0x01")]), s)

/-- The payment is accepted at each of its three attempts. -/
theorem paymentOnly_submissions : ∃ v w u receipt,
    paymentOnly.submissions vague .shared {} (.int 0) ⟨.null, .null, .null, .null, .null⟩ ()
      = [v, w, u] ∧ v.outcome = .ok receipt := by
  have haccepted : (paymentOnly.submissions vague .shared {} (.int 0)
      ⟨.null, .null, .null, .null, .null⟩ ()).map (·.outcome.isOk) = [true, true, true] := by
    decide +kernel
  obtain ⟨v, w, u, hmade⟩ :=
    List.length_eq_three.mp (by simpa using congrArg List.length haccepted)
  rw [hmade] at haccepted
  have hv := (List.cons.inj haccepted).1
  cases hout : v.outcome with
  | ok receipt => exact ⟨v, w, u, receipt, hmade, hout⟩
  | error e => simp [hout, Except.isOk, Except.toBool] at hv

theorem submitted_again_iff_payment : paymentOnly.steps = [] ++ payment :: [] ∧
    payment.IsOnchain ∧ ∃ v w u receipt,
    paymentOnly.submissions vague .shared {} (.int 0) ⟨.null, .null, .null, .null, .null⟩ ()
      = [v, w, u] ∧ v.outcome = .ok receipt ∧ ∃ e, receiptHash receipt = .error e := by
  have honchain : payment.IsOnchain := Or.inl rfl
  have hsteps : paymentOnly.steps = [] ++ payment :: [] := rfl
  obtain ⟨v, w, u, receipt, hall, hv⟩ := paymentOnly_submissions
  obtain ⟨earlier, made, later, hsplit, hearlier, -, hlater, hagain⟩ :=
    submitted_again_iff paymentOnly vague .shared {} (.int 0) ⟨.null, .null, .null, .null, .null⟩
      () hsteps honchain
  rw [List.eq_nil_iff_forall_not_mem.mpr fun x hx => List.not_mem_nil (hearlier x hx),
    List.eq_nil_iff_forall_not_mem.mpr fun x hx => List.not_mem_nil (hlater x hx),
    List.nil_append, List.append_nil, hall] at hsplit
  have hmalformed := ((hagain [] v [w, u] receipt hsplit.symm hv).mp (by simp)).1
  exact ⟨hsteps, honchain, v, w, u, receipt, hall, hv, hmalformed⟩

/-- A transaction that was accepted need not be the last one of its step. -/
theorem accepted_not_last : ¬ ∀ front v back receipt,
    paymentOnly.submissions vague .shared {} (.int 0) ⟨.null, .null, .null, .null, .null⟩ ()
      = front ++ v :: back → v.outcome = .ok receipt → back = [] := by
  intro hlast
  obtain ⟨v, w, u, receipt, hall, hv⟩ := paymentOnly_submissions
  have hnone := hlast [] v [w, u] receipt hall hv
  cases hnone

end Workflow
