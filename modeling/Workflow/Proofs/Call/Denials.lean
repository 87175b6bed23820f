import Workflow.Proofs.Call.AllowList
import Workflow.Proofs.Call.Preparation

/-!
# What a denial names

A failure that signals a denial and does not name a target yet is made into a denial that names the
calls of the step: their targets and the labels of the operations, in order, and the failure as the
cause (`Step.DenialOf`).  A step that has prepared a transaction has a call for each operation, and
neither addresses nor labels are empty, so both names are told.

Every other denial of a step is the one that the service reported (`denial_names_calls`), with what
the service chose to name; it may be nothing (`denial_without_names`).
-/

namespace Workflow

variable {σ : Type}

/-! ### What a failure tells -/

/-- Whether a failure tells something under a name. -/
def Failure.Tells (e : Failure) (name : String) : Prop :=
  ∃ v, (name, v) ∈ e.details ∧ v.isTruthy = true

theorem Failure.namesDenied_iff {e : Failure} :
    e.namesDenied = true ↔ e.kind? = some .denied ∧ e.Tells "target" := by
  simp only [namesDenied, Tells, Bool.and_eq_true, beq_iff_eq, List.any_eq_true, Prod.exists]
  refine and_congr_right fun _ => ⟨?_, ?_⟩
  · rintro ⟨name, v, hmem, rfl, hv⟩
    exact ⟨v, hmem, hv⟩
  · rintro ⟨v, hmem, hv⟩
    exact ⟨_, v, hmem, rfl, hv⟩

/-- The denial of some calls of a step for a failure. -/
structure Step.DenialOf (step : Step) (calls : List Call) (failure e : Failure) : Prop where
  /-- It is a denial. -/
  kind : e.kind? = some .denied
  /-- It names the targets of all calls and the labels of all operations. -/
  details : e.details = [
    ("target", .text (", ".intercalate (calls.map (·.target)))),
    ("operation", .text (", ".intercalate (step.operations.map (·.label))))]
  /-- It tells the targets. -/
  target : e.Tells "target"
  /-- It tells the operations. -/
  operation : e.Tells "operation"
  /-- The failure is behind it. -/
  cause : e.cause = some failure

/-! ### Names are not empty -/

theorem isTruthy_text_iff {s : String} : (Value.text s).isTruthy = true ↔ s ≠ "" := by
  rw [Value.isTruthy, Bool.not_eq_true', String.isEmpty_eq_false_iff]

/-- A list of names with commas between them is not empty if there is a name in it. -/
theorem intercalate_ne_empty {xs : List String} (hne : xs ≠ []) (h : ∀ x ∈ xs, x ≠ "") :
    ", ".intercalate xs ≠ "" := by
  obtain ⟨x, rest, rfl⟩ := List.exists_cons_of_ne_nil hne
  have hx : x.toList ≠ [] := fun hnil => h x List.mem_cons_self (String.toList_eq_nil_iff.mp hnil)
  intro hempty
  have hlist := congrArg String.toList hempty
  rw [String.toList_intercalate] at hlist
  cases rest with
  | nil =>
    rw [List.map_singleton, List.intercalate_singleton] at hlist
    exact hx hlist
  | cons y rest =>
    rw [List.map_cons, List.map_cons, List.intercalate_cons_cons] at hlist
    exact hx (List.append_eq_nil_iff.mp (List.append_eq_nil_iff.mp hlist).1).1

theorem Operation.label_ne_empty (op : Operation) : op.label ≠ "" := by
  rw [Operation.label]
  cases hname : nonempty? op.name with
  | none => decide
  | some name =>
    intro hempty
    obtain rfl : name = "" := hempty
    have hkept := (Option.filter_eq_some_iff.mp hname).2
    cases hkept

theorem ne_empty_of_isAddress {s : String} (h : isAddress s = true) : s ≠ "" := by
  rintro rfl
  cases h

/-! ### Calls of steps -/

/-- The calls that a step has built are to addresses. -/
theorem Step.isAddress_of_builtCalls {step : Step} {c : Context} {calls : List Call}
    (h : step.builtCalls c = .ok calls) : ∀ call ∈ calls, isAddress call.target = true := by
  intro call hcall
  obtain ⟨op, -, hop⟩ := Outcome.exists_of_mem_of_mapM h hcall
  exact (op.of_toCall hop).1

/-- A denial of what a step has prepared names the calls of the step. -/
theorem Step.exists_denialOf {step : Step} {c : Context} {p : Prepared}
    (h : step.prepare? c = some (.ok p)) :
    ∃ calls, step.builtCalls c = .ok calls ∧
      ∀ failure, step.DenialOf calls failure (denial p.calls failure) := by
  obtain ⟨calls, hcalls, hops, hcarries⟩ := Step.carries_of_prepare? h
  have hlength : calls.length = step.operations.length :=
    (Outcome.mapM_eq_ok_iff.mp hcalls).length_eq.symm
  have hnames : Denied.ofCalls p.calls
      = .ok ⟨calls.map (·.target), step.operations.map (·.label)⟩ := by
    rw [hcarries.names_eq, Denied.ofCalls_nameCalls_of_length_eq hlength]
  have htargets : ", ".intercalate (calls.map (·.target)) ≠ "" := by
    refine intercalate_ne_empty ?_ ?_
    · rw [Ne, List.map_eq_nil_iff, ← List.length_eq_zero_iff, hlength, List.length_eq_zero_iff]
      exact hops
    · rw [List.forall_mem_map]
      exact fun call hcall => ne_empty_of_isAddress (isAddress_of_builtCalls hcalls call hcall)
  have hlabels : ", ".intercalate (step.operations.map (·.label)) ≠ "" := by
    refine intercalate_ne_empty (mt List.map_eq_nil_iff.mp hops) ?_
    rw [List.forall_mem_map]
    exact fun op _ => op.label_ne_empty
  refine ⟨calls, hcalls, fun failure => ?_⟩
  rw [denial_eq hnames]
  constructor
  case kind => rfl
  case details => rfl
  case target => exact ⟨_, List.mem_cons_self, isTruthy_text_iff.mpr htargets⟩
  case operation =>
    exact ⟨_, List.mem_cons_of_mem _ (List.mem_singleton_self _), isTruthy_text_iff.mpr hlabels⟩
  case cause => rfl

/-! ### Judgements -/

section

variable {calls : List NamedCall} {e : Failure}

theorem judgeSubmission_of_signalsDenial (h : e.SignalsDenial) (hnamed : e.namesDenied = false) :
    judgeSubmission calls e = denial calls e := by
  obtain ⟨text, htext, -⟩ := id h
  unfold judgeSubmission
  rw [htext]
  simp only [hnamed, (Failure.signalsDenial_iff htext).mpr h, Bool.not_false, Bool.and_true,
    if_true]

theorem judgeSubmission_of_namesDenied (h : e.namesDenied = true) {text : String}
    (htext : e.text = .ok text) : judgeSubmission calls e = e := by
  unfold judgeSubmission
  rw [htext]
  simp only [h, Bool.not_true, Bool.false_and, Bool.false_eq_true, if_false]
  -- A failure that names what is denied is no fault, and nothing else is changed.
  cases e with
  | fault f => cases h
  | _ => rfl

theorem judgeSubmission_of_text_eq_error {e' : Failure} (h : e.text = .error e') :
    judgeSubmission calls e = e' := by
  unfold judgeSubmission
  rw [h]

/-- A denial that has been judged names what was submitted, or it is the failure itself. -/
theorem judgeSubmission_of_kind?_eq_denied (h : (judgeSubmission calls e).kind? = some .denied) :
    judgeSubmission calls e = denial calls e ∨ judgeSubmission calls e = e := by
  have hjudged := judged_judgeSubmission calls e
  generalize judgeSubmission calls e = e' at hjudged h
  cases hjudged with
  | wordless => cases h
  | denied => exact .inl rfl
  | rejected => cases h
  | kept => exact .inr rfl

end

/-! ### Denials of steps -/

/-- A denial of a step comes from a submission that failed. -/
theorem Step.exists_submit_of_denied {step : Step} (honchain : step.IsOnchain)
    {services : Services σ} {channel : Http.Channel} {c : Context} {s s' : σ} {e' : Failure}
    (hrun : step.perform services channel c s = (.error e', s'))
    (hdenied : e'.kind? = some .denied) :
    ∃ p e, step.prepare? c = some (.ok p) ∧ services.submit p.request s = (.error e, s')
      ∧ judgeSubmission p.calls e = e' := by
  obtain ⟨prepared, hprepare⟩ := (step.isOnchain_iff c).mp honchain
  rw [Step.perform_of_prepare? hprepare] at hrun
  cases prepared with
  | error e =>
    -- What keeps a transaction from being prepared is no denial.
    obtain rfl := Except.error.inj (Prod.mk.inj hrun).1
    cases Step.prepare?_forms hprepare e rfl with
    | rule hforming =>
      obtain ⟨kind, hkind, hforming⟩ := hforming
      obtain rfl := Option.some.inj (hkind.symm.trans hdenied)
      cases hforming
    | fault hf => cases hdenied
  | ok p =>
    rw [submitPrepared_ok] at hrun
    rcases hsubmit : services.submit p.request s with ⟨outcome, t⟩
    rw [hsubmit] at hrun
    obtain ⟨hjudged, rfl⟩ := Prod.mk.inj hrun
    cases outcome with
    | error e => exact ⟨p, e, hprepare, hsubmit, Except.error.inj hjudged⟩
    | ok receipt =>
      -- Nor is what comes back instead of a receipt.
      have hreceipt := Outcome.map_eq_error_iff.mp hjudged
      rw [kind?_of_receiptHash_eq_error hreceipt] at hdenied
      cases hdenied

/-- **What a denial names.**  A denial of an on-chain step comes from its submission, which failed.
It is the failure of the submission, or it names all calls of the step, in order, and tells both
targets and operations, with the failure as its cause.  A submission that fails with a signal of a
denial always comes to a denial that names the calls, unless its failure is a denial that tells its
target; such a denial is kept.  A failure without a text ends the step with the fault of asking for
the text. -/
theorem denial_names_calls {step : Step} (honchain : step.IsOnchain) (services : Services σ)
    (channel : Http.Channel) (c : Context) (s : σ) :
    (∀ e' s', step.perform services channel c s = (.error e', s') → e'.kind? = some .denied →
      ∃ p calls e, step.prepare? c = some (.ok p) ∧ step.builtCalls c = .ok calls
        ∧ services.submit p.request s = (.error e, s')
        ∧ (e' = e ∨ step.DenialOf calls e e'))
    ∧ ∀ p e s', step.prepare? c = some (.ok p) → services.submit p.request s = (.error e, s') →
      ∃ calls e', step.builtCalls c = .ok calls
        ∧ step.perform services channel c s = (.error e', s')
        ∧ (e.SignalsDenial → ¬ (e.kind? = some .denied ∧ e.Tells "target") →
          step.DenialOf calls e e')
        ∧ ((∃ text, e.text = .ok text) → e.kind? = some .denied ∧ e.Tells "target" → e' = e)
        ∧ ∀ wordless, e.text = .error wordless → e' = wordless := by
  constructor
  · intro e' s' hrun hdenied
    obtain ⟨p, e, hprepare, hsubmit, rfl⟩ := Step.exists_submit_of_denied honchain hrun hdenied
    obtain ⟨calls, hcalls, hdenial⟩ := Step.exists_denialOf hprepare
    refine ⟨p, calls, e, hprepare, hcalls, hsubmit, ?_⟩
    rcases judgeSubmission_of_kind?_eq_denied hdenied with heq | heq
    · rw [heq]
      exact .inr (hdenial e)
    · exact .inl heq
  · intro p e s' hprepare hsubmit
    obtain ⟨calls, hcalls, hdenial⟩ := Step.exists_denialOf hprepare
    have hperform : step.perform services channel c s
        = (.error (judgeSubmission p.calls e), s') := by
      rw [Step.perform_of_prepare? hprepare, submitPrepared_ok, hsubmit, Prepared.judged_error]
    refine ⟨calls, _, hcalls, hperform, ?_, ?_, ?_⟩
    · intro hsignals hnot
      rw [← Failure.namesDenied_iff, Bool.not_eq_true] at hnot
      rw [judgeSubmission_of_signalsDenial hsignals hnot]
      exact hdenial e
    · rintro ⟨text, htext⟩ htold
      exact judgeSubmission_of_namesDenied (Failure.namesDenied_iff.mpr htold) htext
    · exact fun wordless htext => judgeSubmission_of_text_eq_error htext

/-! ### Denied payments -/

/-- Whether a step prepares its transaction can be tried out. -/
theorem Step.exists_prepared_of_isSome {step : Step} {c : Context}
    (h : ((step.prepare? c).bind Except.toOption).isSome = true) :
    ∃ p, step.prepare? c = some (.ok p) := by
  obtain ⟨p, hp⟩ := Option.isSome_iff_exists.mp h
  obtain ⟨prepared, hprepare, hok⟩ := Option.bind_eq_some_iff.mp hp
  cases prepared with
  | error e => cases hok
  | ok p => exact ⟨p, hprepare⟩

/-- Two payments of nothing in one transaction. -/
def twoPayments : Step :=
  ⟨{ id := "pay" },
    .onchainBatch (some [
      { name := some "Pay", target := "0x00000000000000000000000000000000000000aa",
        calldata := some "0x" },
      { target := "0x00000000000000000000000000000000000000bb", calldata := some "0x" }])⟩

/-- The text of a fault denies the payments, and both are named. -/
theorem denial_names_calls_twoPayments : twoPayments.IsOnchain ∧ ∃ e' s',
    twoPayments.perform closing .shared emptyContext 1 = (.error e', s')
      ∧ e'.kind? = some .denied
      ∧ e'.details = [
        ("target", .text ("0x00000000000000000000000000000000000000aa, "
          ++ "0x00000000000000000000000000000000000000bb")),
        ("operation", .text "Pay, unnamed")] := by
  have honchain : twoPayments.IsOnchain := .inr rfl
  obtain ⟨p, hprepare⟩ : ∃ p, twoPayments.prepare? emptyContext = some (.ok p) :=
    Step.exists_prepared_of_isSome (by decide +kernel)
  obtain ⟨calls, e', hcalls, hrun, hnames, -⟩ :=
    (denial_names_calls honchain closing .shared emptyContext 1).2 p _ _ hprepare rfl
  have htext : (Failure.fault (.reported .runtime [.text "reverted with 0xe356c1d3"])).text
      = .ok "reverted with 0xe356c1d3" := rfl
  have hsignals := (Failure.signalsDenial_iff htext).mp (by decide +kernel)
  have hdenial := hnames hsignals fun h => nomatch h.1
  have hbuilt : (twoPayments.builtCalls emptyContext).toOption.map (·.map (·.target))
      = some ["0x00000000000000000000000000000000000000aa",
        "0x00000000000000000000000000000000000000bb"] := by decide +kernel
  rw [hcalls] at hbuilt
  have htargets : calls.map (·.target) = ["0x00000000000000000000000000000000000000aa",
      "0x00000000000000000000000000000000000000bb"] := Option.some.inj hbuilt
  have hlabels : twoPayments.operations.map (·.label) = ["Pay", "unnamed"] := by decide
  have hdetails := hdenial.details
  rw [htargets, hlabels] at hdetails
  exact ⟨honchain, e', _, hrun, hdenial.kind, hdetails⟩

/-- Services that deny every transaction without a signal, and tell what they are given to tell. -/
def denying (details : List (String × Value)) : Services Unit where
  findProxy _ := Act.done (.ok none)
  revealHeaders _ := Act.done (.ok [])
  send _ s := (.error (.fault .notTexts), s)
  submit _ s := (.error (.stated ⟨.denied, .text "nope", details, none⟩), s)

theorem perform_payment_denying (details : List (String × Value)) :
    payment.perform (denying details) .shared emptyContext ()
      = (.error (.stated ⟨.denied, .text "nope", details, none⟩), ()) := by
  obtain ⟨p, hprepare⟩ : ∃ p, payment.prepare? emptyContext = some (.ok p) :=
    Step.exists_prepared_of_isSome (by decide +kernel)
  have htext : (Failure.stated ⟨.denied, .text "nope", details, none⟩).text = .ok "nope" := rfl
  have hplain : signalsDenial "nope" = false := by decide
  rw [Step.perform_of_prepare? hprepare, submitPrepared_ok]
  show (Except.error (judgeSubmission p.calls (.stated _)), ()) = _
  unfold judgeSubmission
  rw [htext]
  simp only [hplain, Bool.and_false, Bool.false_eq_true, if_false]

/-- A denial of the service is kept if there is no signal in its text, with nothing told, and if it
tells its target, with no operation told. -/
theorem denial_without_names :
    (¬ ∀ e' s', payment.perform (denying [("target", .null), ("operation", .null)]) .shared
        emptyContext () = (.error e', s') → e'.kind? = some .denied →
      e'.Tells "target" ∧ e'.Tells "operation")
    ∧ ¬ ∀ e' s', payment.perform
        (denying [("target", .text "0x00000000000000000000000000000000000000aa"),
          ("operation", .null)]) .shared
        emptyContext () = (.error e', s') → e'.kind? = some .denied →
      e'.Tells "target" ∧ e'.Tells "operation" := by
  have huntold : ∀ details, (∀ v, ("operation", v) ∈ details → v = .null) →
      ¬ ∀ e' s', payment.perform (denying details) .shared emptyContext () = (.error e', s') →
        e'.kind? = some .denied → e'.Tells "target" ∧ e'.Tells "operation" := by
    intro details hnull htold
    obtain ⟨-, v, hmem, hv⟩ := htold _ _ (perform_payment_denying details) rfl
    rw [hnull v hmem] at hv
    cases hv
  constructor
  · exact huntold _ (by simp)
  · exact huntold _ (by simp)

end Workflow
