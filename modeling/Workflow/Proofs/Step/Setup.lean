import Workflow.Proofs.Call.Preparation
import Workflow.Proofs.Definition.Soundness
import Workflow.Proofs.Http.Requests

/-!
# What a handler may still find wrong with the set-up of a step

Handlers look at the structure of a step before they do anything (`Step.TurnedAway`).  Apart from
these guards, they refuse a set-up for what is stored under the id of an endpoint, or for an
operation without call data and selector (`Step.Unset`); what an outside service raises passes
through (`Services.Raises`).  There is no further misconfiguration (`perform_misconfigured`).

The check of a definition is written apart from the guards and asks for everything that they ask
for: no step of a checked definition is turned away (`setup_of_checked`).
-/

namespace Workflow

open Outcome

variable {σ : Type} {step : Step} {services : Services σ} {channel : Http.Channel} {c : Context}
  {s : σ} {p : Misconfiguration} {e : Failure}

/-! ### Misconfigurations -/

/-- The guards of the handlers, with the misconfiguration that each of them ends an attempt with. -/
inductive Step.TurnedAway (step : Step) : Misconfiguration → Prop where
  | noRequest (h : step.action = .http none) : TurnedAway step (.breach (.httpMissing step.id))
  | twoEndpoints {config : HttpConfig} (h : step.action = .http (some config))
    (hid : IsGiven config.proxyId) (hurl : IsGiven config.url) :
    TurnedAway step (.breach (.httpTwoEndpoints step.id))
  | noEndpoint {config : HttpConfig} (h : step.action = .http (some config))
    (hid : ¬ IsGiven config.proxyId) (hurl : ¬ IsGiven config.url) : TurnedAway step .noEndpoint
  | noCall (h : step.action = .onchain none) : TurnedAway step (.breach (.onchainMissing step.id))
  | noBatch (h : step.action = .onchainBatch none) : TurnedAway step (.breach (.batchEmpty step.id))
  | emptyBatch (h : step.action = .onchainBatch (some [])) :
    TurnedAway step (.breach (.batchEmpty step.id))
  | noCondition (h : step.action = .condition none) :
    TurnedAway step (.breach (.conditionMissing step.id))
  | noExpression (h : step.action = .transform none) :
    TurnedAway step (.breach (.transformMissing step.id))

/-- What the structure of a step does not tell: a stored endpoint that is not there or no endpoint,
and an operation with neither call data nor a selector to form them with. -/
inductive Step.Unset (step : Step) (services : Services σ) (s : σ) : Misconfiguration → Prop where
  | unknownProxy {config : HttpConfig} {id : String} (h : step.action = .http (some config))
    (hid : nonempty? config.proxyId = some id)
    (hnone : (services.findProxy id s).1 = .ok none
      ∨ (services.findProxy id s).1 = .ok (some (.raw .null))) :
    Unset step services s (.unknownProxy id)
  | malformedProxy {config : HttpConfig} {id : String} {v : Value} {m : Shape.Mismatch}
    (h : step.action = .http (some config)) (hid : nonempty? config.proxyId = some id)
    (hraw : (services.findProxy id s).1 = .ok (some (.raw v)))
    (hv : ProxyRecord.ofValue? v = .error m) : Unset step services s (.malformedProxy id m)
  | incompleteOperation {op : Operation} (hop : op ∈ step.operations)
    (hcalldata : op.calldata = none) (hselector : op.selector = none) :
    Unset step services s .incompleteOperation

/-- An outside service fails in this way.  Headers are revealed and requests are sent in a world
that lookups have led to. -/
inductive Services.Raises (services : Services σ) (s : σ) (e : Failure) : Prop where
  | find {id : String} (h : (services.findProxy id s).1 = .error e)
  | reveal {stored : Value} {s' : σ} (hworld : services.LooksUp s s')
    (h : (services.revealHeaders stored s').1 = .error e)
  | send {r : Http.Request} {s' : σ} (hworld : services.LooksUp s s')
    (h : (services.send r s').1 = .error e)
  | submit {r : TransactionRequest} (h : (services.submit r s).1 = .error e)

/-- Where a failure comes from that is of the kind of misconfigurations. -/
inductive Step.Misconfigured (step : Step) (services : Services σ) (s : σ) : Failure → Prop where
  | turnedAway {p : Misconfiguration} (h : step.TurnedAway p) :
    Misconfigured step services s (.misconfigured p)
  | unset {p : Misconfiguration} (h : step.Unset services s p) :
    Misconfigured step services s (.misconfigured p)
  | raised {e : Failure} (h : services.Raises s e) : Misconfigured step services s e

/-- All failures of a computation that are misconfigurations come from somewhere. -/
abbrev Step.Explains {α : Type} (step : Step) (services : Services σ) (s : σ)
    (x : Except Failure α) : Prop :=
  FailsOnly (fun e : Failure => e.kind? = some .misconfigured → step.Misconfigured services s e) x

namespace Step.Explains

variable {α : Type} {x : Except Failure α}

theorem turnedAway (h : step.TurnedAway p) :
    step.Explains services s (.error (.misconfigured p) : Except Failure α) :=
  .error fun _ => .turnedAway h

theorem of_ne (h : FailsOnly (fun e : Failure => e.kind? ≠ some .misconfigured) x) :
    step.Explains services s x := h.mono fun _ hne hkind => absurd hkind hne

theorem of_forms {P : Fault → Prop} (h : Forms P x) : step.Explains services s x := by
  refine of_ne (h.mono fun e he => ?_)
  cases he with
  | rule h => exact h.kind?_ne_misconfigured
  | fault => exact nofun

theorem of_raises (h : ∀ e, x = .error e → services.Raises s e) : step.Explains services s x :=
  fun e he _ => .raised (h e he)

/-- A set-up is not refused for the calls of complete operations. -/
theorem of_prepares {ops : List Operation} (hops : step.operations = ops)
    (h : Prepares ops c x) : step.Explains services s x := by
  refine h.mono fun e he hkind => ?_
  cases he with
  | rule h =>
    cases h with
    | value h => exact absurd hkind h.kind?_ne_misconfigured
    | incomplete hop hcalldata hselector =>
      exact .unset (.incompleteOperation (hops ▸ hop) hcalldata hselector)
  | fault => cases hkind

end Step.Explains

/-! ### HTTP steps -/

namespace Http

variable {config : HttpConfig} {id : String}

theorem readProxy_explains (haction : step.action = .http (some config))
    (hid : nonempty? config.proxyId = some id) {found : Option StoredProxy}
    (hfind : (services.findProxy id s).1 = .ok found) :
    step.Explains services s (readProxy id found) := by
  cases found with
  | none => exact .error fun _ => .unset (.unknownProxy haction hid (.inl hfind))
  | some stored =>
    cases stored with
    | record proxy => exact .ok proxy
    | raw v =>
      by_cases hnull : v = .null
      · subst hnull
        exact .error fun _ => .unset (.unknownProxy haction hid (.inr hfind))
      · rw [readProxy_raw hnull]
        cases hv : ProxyRecord.ofValue? v with
        | error m => exact .error fun _ => .unset (.malformedProxy haction hid hfind hv)
        | ok proxy => exact .ok proxy

theorem proxyEndpoint_explains {s' : σ} (hworld : services.LooksUp s s') (proxy : ProxyRecord) :
    step.Explains services s (proxyEndpoint services proxy s').1 := by
  rw [proxyEndpoint]
  refine Act.andThen_failsOnly ?_ ?_
  · show step.Explains services s (proxyMethod proxy.httpMethod)
    unfold proxyMethod
    split_ifs
    · split
      · exact .ok _
      · exact .error fun h => by cases h
    · exact .ok _
  · intro method t hmethod
    obtain ⟨-, rfl⟩ := Act.done_eq_iff.mp hmethod
    refine Act.andThen_failsOnly ?_ fun revealed t _ => .ok _
    unfold storedHeaders
    split_ifs
    · exact Step.Explains.of_raises fun e he => .reveal hworld he
    · exact .ok _

theorem endpointOf_explains (haction : step.action = .http (some config)) :
    step.Explains services s (endpointOf services step.id config s).1 := by
  unfold endpointOf
  rcases hid : nonempty? config.proxyId with _ | stored <;>
    rcases hurl : nonempty? config.url with _ | url
  case none.none =>
    refine .turnedAway (.noEndpoint haction ?_ ?_)
    · simp [isGiven_iff, hid]
    · simp [isGiven_iff, hurl]
  case none.some => exact .ok _
  case some.none =>
    refine Act.andThen_failsOnly (Step.Explains.of_raises fun e he => .find he) ?_
    intro found t hfind
    refine Act.andThen_failsOnly
      (readProxy_explains haction hid (congrArg Prod.fst hfind)) ?_
    rintro proxy _ hread
    obtain ⟨-, rfl⟩ := Act.done_eq_iff.mp hread
    exact proxyEndpoint_explains (.find hfind) proxy
  case some.some =>
    exact .turnedAway (.twoEndpoints haction (isGiven_iff.mpr ⟨_, hid⟩) (isGiven_iff.mpr ⟨_, hurl⟩))

theorem stepHeaders_explains (c : Context) (config : HttpConfig) :
    step.Explains services s (stepHeaders c config) := by
  rw [stepHeaders]
  refine (Step.Explains.of_forms (c.resolveFields_forms _)).bind fun fields _ => ?_
  unfold headerTexts
  split_ifs
  · exact .ok _
  · exact .error fun h => by cases h

theorem stepContent_explains (c : Context) (config : HttpConfig) (method : String) :
    step.Explains services s (stepContent c config method) := by
  unfold stepContent
  split_ifs
  · refine (Step.Explains.of_forms (c.resolveAll_forms _)).bind fun v _ =>
      .bind ?_ fun text _ => .ok _
    unfold bodyText
    split_ifs
    · split
      · exact .ok _
      · exact .error nofun
    · exact .error nofun
  · exact .ok _

theorem buildRequest_explains {given : Option HttpConfig} (haction : step.action = .http given) :
    step.Explains services s (buildRequest services channel step.id given c s).1 := by
  cases given with
  | none => exact .turnedAway (.noRequest haction)
  | some config =>
    refine Act.andThen_failsOnly (endpointOf_explains haction) fun endpoint _ _ => ?_
    show step.Explains services s (requestTo endpoint channel config c)
    rw [requestTo]
    refine (stepHeaders_explains c config).bind fun own _ => ?_
    exact (stepContent_explains c config endpoint.method).bind fun content _ => .ok _

/-- An answer is refused for the outside service that gave it, or is a fault. -/
theorem readResponse_kind?_ne (r : Response) :
    FailsOnly (fun e : Failure => e.kind? ≠ some .misconfigured) (readResponse r) := by
  have htext : FailsOnly (fun e : Failure => e.kind? ≠ some .misconfigured)
      (r.text.mapError .fault) := by
    cases r.text with
    | error e => exact .error nofun
    | ok text => exact .ok text
  rw [readResponse]
  refine .bind ?_ fun isSuccess _ => ?_
  · cases r.isSuccess with
    | error e => exact .error nofun
    | ok b => exact .ok b
  split_ifs
  · rw [readJson]
    split
    · exact .ok _
    · split_ifs
      · exact htext.bind fun text _ => .error nofun
      · exact .error nofun
  · exact htext.bind fun text _ => .ok _
  · rw [statusFailure]
    split_ifs
    · exact htext.bind fun text _ => .error nofun
    · exact .error nofun

theorem eq_of_sendFailure (h : (sendFailure e).kind? = some .misconfigured) :
    sendFailure e = e := by
  cases e with
  | fault f =>
    rw [sendFailure] at h
    split_ifs at h <;> cases h
  | _ => rfl

theorem runStep_explains {given : Option HttpConfig} (haction : step.action = .http given) :
    step.Explains services s (runStep services channel step.id given c s).1 := by
  refine Act.andThen_failsOnly (buildRequest_explains haction) fun r s' hr => ?_
  have hworld : services.LooksUp s s' := by
    have hlooksUp := buildRequest_looksUp services channel step.id given c s
    rwa [hr] at hlooksUp
  show step.Explains services s (readAnswer (services.send r s').1)
  cases hsent : (services.send r s').1 with
  | error e =>
    refine .error fun hkind => ?_
    rw [eq_of_sendFailure hkind]
    exact .raised (.send hworld hsent)
  | ok response => exact .of_ne (readResponse_kind?_ne response)

end Http

/-! ### On-chain steps -/

theorem eq_of_judgeSubmission {calls : List NamedCall}
    (h : (judgeSubmission calls e).kind? = some .misconfigured) : judgeSubmission calls e = e := by
  have hjudged := judged_judgeSubmission calls e
  generalize judgeSubmission calls e = e' at hjudged h
  cases hjudged with
  | wordless => cases h
  | denied =>
    unfold denial at h
    split at h <;> cases h
  | rejected => cases h
  | kept => rfl

theorem judgeOutcome_explains (r : TransactionRequest) (calls : List NamedCall) :
    step.Explains services s (judgeOutcome calls (services.submit r s).1) := by
  cases hsubmitted : (services.submit r s).1 with
  | error e =>
    refine .error fun hkind => ?_
    rw [eq_of_judgeSubmission hkind]
    exact .raised (.submit hsubmitted)
  | ok receipt =>
    refine .of_ne fun e he hkind => ?_
    rw [kind?_of_receiptHash_eq_error he] at hkind
    cases hkind

theorem submitPrepared_explains {prepared : Except Failure Prepared}
    (h : step.Explains services s prepared) :
    step.Explains services s (submitPrepared services prepared s).1 := by
  refine Act.andThen_failsOnly h fun p s' hp => ?_
  obtain ⟨-, rfl⟩ := Act.done_eq_iff.mp hp
  exact (judgeOutcome_explains p.request p.calls).map transactionOutput

/-! ### All steps -/

/-- **Every misconfiguration has a reason**: a guard turns the step away, the set-up lacks what its
structure does not tell, or an outside service raises the failure. -/
theorem perform_misconfigured (services : Services σ) (channel : Http.Channel) (step : Step)
    (c : Context) (s : σ) : step.Explains services s (step.perform services channel c s).1 := by
  rw [step.perform_eq]
  cases haction : step.action with
  | http given => exact Http.runStep_explains haction
  | onchain op =>
    refine submitPrepared_explains ?_
    cases op with
    | none => exact .turnedAway (.noCall haction)
    | some op =>
      have hops : step.operations = [op] := by simp [Step.operations, haction]
      exact .of_prepares hops (prepareSingle_prepares op c)
  | onchainBatch ops =>
    refine submitPrepared_explains ?_
    rcases ops with _ | _ | ⟨op, ops⟩
    · exact .turnedAway (.noBatch haction)
    · exact .turnedAway (.emptyBatch haction)
    · have hops : step.operations = op :: ops := by simp [Step.operations, haction]
      exact .of_prepares hops (prepareBatch_prepares (op :: ops) c)
  | condition config =>
    cases config with
    | none => exact .turnedAway (.noCondition haction)
    | some config => exact (Step.Explains.of_forms (c.resolveAll_forms _)).map _
  | transform expression =>
    cases expression with
    | none => exact .turnedAway (.noExpression haction)
    | some expression => exact .of_forms (c.resolveAll_forms expression)

/-- A guard ends the attempt with its misconfiguration, before anything else is looked at. -/
theorem perform_of_turnedAway (h : step.TurnedAway p) :
    step.perform services channel c s = (.error (.misconfigured p), s) := by
  rw [step.perform_eq]
  cases h with
  | twoEndpoints haction hid hurl =>
    obtain ⟨id, hid⟩ := isGiven_iff.mp hid
    obtain ⟨url, hurl⟩ := isGiven_iff.mp hurl
    rw [haction]
    refine Http.runStep_of_error (Act.andThen_of_error ?_)
    rw [Http.endpointOf, hid, hurl]
    rfl
  | noEndpoint haction hid hurl =>
    have hnoId : nonempty? _ = none := Option.eq_none_iff_forall_ne_some.mpr fun id h =>
      hid (isGiven_iff.mpr ⟨id, h⟩)
    have hnoUrl : nonempty? _ = none := Option.eq_none_iff_forall_ne_some.mpr fun url h =>
      hurl (isGiven_iff.mpr ⟨url, h⟩)
    rw [haction]
    refine Http.runStep_of_error (Act.andThen_of_error ?_)
    rw [Http.endpointOf, hnoId, hnoUrl]
    rfl
  | _ haction =>
    rw [haction]
    rfl

/-- An action with everything that it needs passes the guard. -/
theorem Action.Complete.not_turnedAway (h : step.action.Complete) : ¬ step.TurnedAway p := by
  intro hturned
  cases hturned with
  | twoEndpoints haction hid hurl =>
    rw [haction] at h
    cases h with
    | http hxor =>
      rcases hxor with ⟨-, hno⟩ | ⟨-, hno⟩
      · exact hno hurl
      · exact hno hid
  | noEndpoint haction hid hurl =>
    rw [haction] at h
    cases h with
    | http hxor =>
      rcases hxor with ⟨hid', -⟩ | ⟨hurl', -⟩
      · exact hid hid'
      · exact hurl hurl'
  | emptyBatch haction =>
    rw [haction] at h
    cases h with
    | onchainBatch hne => exact hne rfl
  | _ haction =>
    rw [haction] at h
    cases h

/-- **A checked definition is set up.** For every step of a definition that the check finds nothing
in, a handler is found, one for steps of its kind; attempts at the step run it, and it does not turn
the step away.  An attempt that ends with a misconfiguration does so for a stored endpoint that is
not there or is none, or for an operation with neither call data nor a selector, unless an outside
service raises the misconfiguration. -/
theorem setup_of_checked {d : Definition} {version : Value}
    (hvalid : (d.check version).valid = true) (hstep : step ∈ d.steps) :
    (∃ handler, (Candidate.step step).handler = .ok handler ∧ handler.Serves step.action ∧
      ∀ {σ : Type} (services : Services σ) (channel : Http.Channel) (c : Context),
        step.perform services channel c = handler.execute services channel step c) ∧
    (∀ p, ¬ step.TurnedAway p) ∧
    ∀ {σ : Type} (services : Services σ) (channel : Http.Channel) (c : Context) (s : σ)
      (e : Failure),
      (step.perform services channel c s).1 = .error e → e.kind? = some .misconfigured →
        (∃ p, e = .misconfigured p ∧ step.Unset services s p) ∨ services.Raises s e := by
  have hcomplete := ((check_valid_iff d version).mp hvalid).complete step hstep
  have hguards : ∀ p, ¬ step.TurnedAway p := fun p => hcomplete.not_turnedAway
  refine ⟨⟨step.handler, rfl, serves_handler step, fun _ _ _ => rfl⟩, hguards,
    fun services channel c s e he hkind => ?_⟩
  cases perform_misconfigured services channel step c s e he hkind with
  | turnedAway h => exact absurd h (hguards _)
  | unset h => exact .inl ⟨_, rfl, h⟩
  | raised h => exact .inr h

/-- Services that store one value, which is no endpoint. -/
def cluttered : Services Nat :=
  { closing with
    findProxy := fun id =>
      Act.done (.ok (if id = "notes" then some (.raw (.text "to do")) else none)) }

/-- A definition in which no step can be run, although the check finds nothing in it. -/
def wishes : Definition :=
  { version := "1.0",
    steps := [
      ⟨{ id := "ask", outputAs := "answer" }, .http (some { proxyId := some "desk" })⟩,
      ⟨{ id := "read", outputAs := "text" }, .http (some { proxyId := some "notes" })⟩,
      ⟨{ id := "pay", outputAs := "receipt" },
        .onchain (some { target := "0x00000000000000000000000000000000000000aa" })⟩] }

/-- Each of the three reasons that the check leaves is there. -/
theorem setup_of_checked_wishes : (wishes.check (.text "1.0")).valid = true ∧
    ∀ step ∈ wishes.steps, ∃ p, step.Unset cluttered 0 p ∧
      step.perform cluttered .shared emptyContext 0 = (.error (.misconfigured p), 0) := by
  have hvalid : (wishes.check (.text "1.0")).valid = true := by decide
  have hraises : ∀ p, ¬ cluttered.Raises 0 (.misconfigured p) := by
    rintro p (h | ⟨-, h⟩ | ⟨-, h⟩ | h) <;> cases h
  have hperform : ∀ step ∈ wishes.steps, ∃ p,
      step.perform cluttered .shared emptyContext 0 = (.error (.misconfigured p), 0) := by
    simp only [wishes, List.forall_mem_cons, List.not_mem_nil, false_implies, implies_true,
      and_true]
    exact ⟨⟨_, rfl⟩, ⟨_, rfl⟩, ⟨_, rfl⟩⟩
  refine ⟨hvalid, fun step hstep => ?_⟩
  obtain ⟨p, hp⟩ := hperform step hstep
  obtain ⟨-, -, hfails⟩ := setup_of_checked hvalid hstep
  rcases hfails cluttered .shared emptyContext 0 _ (congrArg Prod.fst hp) rfl with
    ⟨p', heq, hunset⟩ | hraised
  · obtain rfl := Failure.misconfigured.inj heq
    exact ⟨p, hunset, hp⟩
  · exact absurd hraised (hraises p)

end Workflow
