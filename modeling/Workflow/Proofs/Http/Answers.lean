import Workflow.Proofs.Expression.Idempotence
import Workflow.Proofs.Http.Faults
import Workflow.Proofs.Json.Nesting

/-!
# What becomes of an HTTP step

A response reports success or not.  The output of a successful one is its JSON value or its text
(`Yields`).  A failure status and a malformed JSON text are problems of the service, with the status
and the body of the response (`Shows`); so is a server that is not reached.

Not everything is taken for a failure that the rules know: forming the request may break off, the
client may report a fault from outside the exchange or one without a text, and a response may be
unreadable.  `StepFault` lists these faults, and `http_outcome` says that they leave the step and
that nothing else does.
-/

namespace Workflow.Http

open Outcome

/-! ### Responses -/

/-- The value that a successful response stands for. -/
inductive Yields (r : Response) : Value → Prop where
  /-- The content is declared to be JSON. -/
  | json {v : Value} (hsuccess : r.isSuccess = .ok true) (hjson : r.isJson = true)
    (h : Json.decode r.content = .ok v) : Yields r v
  /-- The content is of another kind. -/
  | text {text : String} (hsuccess : r.isSuccess = .ok true) (hjson : r.isJson = false)
    (h : r.text = .ok text) : Yields r (.text text)

/-- A successful response declares JSON, and its content breaks the grammar. -/
def MalformedJson (r : Response) (e : Json.Error) : Prop :=
  r.isSuccess = .ok true ∧ r.isJson = true ∧ Json.decode r.content = .error e ∧ e.isInText = true

/-- The problem of the service that a response shows. -/
inductive Shows (r : Response) : ServiceProblem → Prop where
  /-- The status is not one of success. -/
  | status {body : String} (hstatus : r.isSuccess = .ok false)
    (hshort : r.status.isWritable = true) (h : r.text = .ok body) :
    Shows r (.status r.status (reasonPhrase r.status) body)
  /-- The JSON text is malformed. -/
  | malformed {e : Json.Error} {body : String} (he : MalformedJson r e) (h : r.text = .ok body) :
    Shows r (.malformedBody e r.status body)

/-- The text of a response is read, as its output or for a problem of the service. -/
inductive NeedsText (r : Response) : Prop where
  /-- The status is not one of success. -/
  | status (hstatus : r.isSuccess = .ok false) (hshort : r.status.isWritable = true)
  /-- The text is the output. -/
  | output (hsuccess : r.isSuccess = .ok true) (hjson : r.isJson = false)
  /-- The JSON text is malformed. -/
  | malformed {e : Json.Error} (he : MalformedJson r e)

/-- Why a response cannot be read. -/
inductive AnswerFault (r : Response) : Fault → Prop where
  /-- The status is no number. -/
  | status (h : Number.ofValue? r.status = none) :
    AnswerFault r (.noOrder "<=" (Value.int 200).kindName r.status.kindName)
  /-- The status is not one of success, and has too many digits for a message. -/
  | longStatus (hstatus : r.isSuccess = .ok false) (hlong : r.status.isWritable = false) :
    AnswerFault r (.numeral .tooLongToWrite)
  /-- The bytes of a text in the JSON value are not UTF-8. -/
  | undecoded {flaw : Utf8.Flaw} (hsuccess : r.isSuccess = .ok true) (hjson : r.isJson = true)
    (h : Json.decode r.content = .error (.undecodable flaw)) :
    AnswerFault r (.json (.undecodable flaw))
  /-- The text is needed, and its character set does not give one. -/
  | text {f : Fault} (hneeds : NeedsText r) (h : r.text = .error f) : AnswerFault r f

section

variable {r : Response} {v : Value} {f : Fault} {x : Failure}

/-- A problem that a response shows has the status and the text of the response. -/
theorem Shows.details {p : ServiceProblem} (h : Shows r p) :
    p.statusCode = r.status ∧ ∃ body, r.text = .ok body ∧ p.body = .text body := by
  cases h with
  | status _ _ htext => exact ⟨rfl, _, htext, rfl⟩
  | malformed _ htext => exact ⟨rfl, _, htext, rfl⟩

theorem isSuccess_eq_error_iff :
    r.isSuccess = .error f ↔ Number.ofValue? r.status = none
      ∧ f = .noOrder "<=" (Value.int 200).kindName r.status.kindName := by
  unfold Response.isSuccess
  cases Number.ofValue? r.status with
  | none => simp only [Except.error.injEq, true_and, eq_comm]
  | some code => exact iff_of_false nofun nofun

theorem readResponse_of_failure (h : r.isSuccess = .ok false) :
    readResponse r = statusFailure r := by
  rw [readResponse, h]
  rfl

theorem statusFailure_of_isWritable (h : r.status.isWritable = true) :
    statusFailure r = (r.text.mapError .fault >>= fun body =>
      .error (.service (.status r.status (reasonPhrase r.status) body))) := by
  rw [statusFailure, if_pos h]

theorem statusFailure_of_not_isWritable (h : r.status.isWritable = false) :
    statusFailure r = .error (.fault (.numeral .tooLongToWrite)) := by
  rw [statusFailure, h]
  rfl

theorem readResponse_of_json (h : r.isSuccess = .ok true) (hjson : r.isJson = true) :
    readResponse r = readJson r := by
  rw [readResponse, h, hjson]
  rfl

theorem readResponse_of_malformed {e : Json.Error} (h : MalformedJson r e) :
    readResponse r = (r.text.mapError .fault >>= fun body =>
      .error (.service (.malformedBody e r.status body))) := by
  obtain ⟨hsuccess, hjson, hdecode, hin⟩ := h
  rw [readResponse_of_json hsuccess hjson]
  simp only [readJson, hdecode, hin, if_true]

theorem readResponse_of_other (h : r.isSuccess = .ok true) (hjson : r.isJson = false) :
    readResponse r = (r.text.mapError .fault >>= fun text => .ok (.text text)) := by
  rw [readResponse, h, hjson]
  rfl

theorem Yields.readResponse_eq (h : Yields r v) : readResponse r = .ok v := by
  cases h with
  | json hsuccess hjson h =>
    rw [readResponse_of_json hsuccess hjson, readJson, h]
  | text hsuccess hjson h =>
    rw [readResponse_of_other hsuccess hjson, h]
    rfl

theorem Shows.readResponse_eq {p : ServiceProblem} (h : Shows r p) :
    readResponse r = .error (.service p) := by
  cases h with
  | status hstatus hshort htext =>
    rw [readResponse_of_failure hstatus, statusFailure_of_isWritable hshort, htext]
    rfl
  | malformed he htext =>
    rw [readResponse_of_malformed he, htext]
    rfl

theorem AnswerFault.readResponse_eq (h : AnswerFault r f) : readResponse r = .error (.fault f) := by
  cases h with
  | status hnone =>
    rw [readResponse, isSuccess_eq_error_iff.mpr ⟨hnone, rfl⟩]
    rfl
  | longStatus hstatus hlong =>
    rw [readResponse_of_failure hstatus, statusFailure_of_not_isWritable hlong]
  | @undecoded flaw hsuccess hjson hdecode =>
    have hin : (Json.Error.undecodable flaw).isInText = false := rfl
    rw [readResponse_of_json hsuccess hjson]
    simp only [readJson, hdecode, hin, Bool.false_eq_true, if_false, jsonFailure]
  | text hneeds htext =>
    cases hneeds with
    | status hstatus hshort =>
      rw [readResponse_of_failure hstatus, statusFailure_of_isWritable hshort, htext]
      rfl
    | output hsuccess hjson =>
      rw [readResponse_of_other hsuccess hjson, htext]
      rfl
    | malformed he =>
      rw [readResponse_of_malformed he, htext]
      rfl

/-- Every response yields a value, shows a problem of the service or cannot be read. -/
theorem exists_yields_or_shows_or_fault (r : Response) :
    (∃ v, Yields r v) ∨ (∃ p, Shows r p) ∨ ∃ f, AnswerFault r f := by
  rcases hstatus : r.isSuccess with f | isSuccess
  · obtain ⟨hnone, -⟩ := isSuccess_eq_error_iff.mp hstatus
    exact .inr (.inr ⟨_, .status hnone⟩)
  -- The text of the response is looked at where it is needed only.
  cases isSuccess with
  | false =>
    cases hshort : r.status.isWritable with
    | false => exact .inr (.inr ⟨_, .longStatus hstatus hshort⟩)
    | true =>
      rcases htext : r.text with f | body
      · exact .inr (.inr ⟨f, .text (.status hstatus hshort) htext⟩)
      · exact .inr (.inl ⟨_, .status hstatus hshort htext⟩)
  | true =>
    cases hjson : r.isJson with
    | false =>
      rcases htext : r.text with f | text
      · exact .inr (.inr ⟨f, .text (.output hstatus hjson) htext⟩)
      · exact .inl ⟨_, .text hstatus hjson htext⟩
    | true =>
      rcases hdecode : Json.decode r.content with e | v
      · cases he : e.isInText with
        | false =>
          obtain ⟨flaw, rfl⟩ := Json.exists_undecodable hdecode he
          exact .inr (.inr ⟨_, .undecoded hstatus hjson hdecode⟩)
        | true =>
          have hmalformed : MalformedJson r e := ⟨hstatus, hjson, hdecode, he⟩
          rcases htext : r.text with f | body
          · exact .inr (.inr ⟨f, .text (.malformed hmalformed) htext⟩)
          · exact .inr (.inl ⟨_, .malformed hmalformed htext⟩)
      · exact .inl ⟨v, .json hstatus hjson hdecode⟩

/-- A response has an output exactly if it yields one. -/
theorem readResponse_eq_ok_iff : readResponse r = .ok v ↔ Yields r v := by
  constructor
  · intro h
    rcases exists_yields_or_shows_or_fault r with ⟨w, hw⟩ | ⟨p, hp⟩ | ⟨f, hf⟩
    · obtain rfl := Except.ok.inj (hw.readResponse_eq.symm.trans h)
      exact hw
    · cases hp.readResponse_eq.symm.trans h
    · cases hf.readResponse_eq.symm.trans h
  · exact Yields.readResponse_eq

/-- Reading a response fails with the problem that it shows, or breaks off with a fault. -/
theorem readResponse_eq_error_iff :
    readResponse r = .error x ↔
      (∃ p, Shows r p ∧ x = .service p) ∨ ∃ f, AnswerFault r f ∧ x = .fault f := by
  constructor
  · intro h
    rcases exists_yields_or_shows_or_fault r with ⟨w, hw⟩ | ⟨p, hp⟩ | ⟨f, hf⟩
    · cases hw.readResponse_eq.symm.trans h
    · exact .inl ⟨p, hp, Except.error.inj (h.symm.trans hp.readResponse_eq)⟩
    · exact .inr ⟨f, hf, Except.error.inj (h.symm.trans hf.readResponse_eq)⟩
  · rintro (⟨p, hp, rfl⟩ | ⟨f, hf, rfl⟩)
    · exact hp.readResponse_eq
    · exact hf.readResponse_eq

end

/-! ### Steps -/

section

variable {τ : Type} (send : Request → Act τ Response) (channel : Channel) (id : String)
  (given : Option HttpConfig) (c : Context) (m : InMemory) (t : τ)

/-- The step has a request, and this is what the client makes of it. -/
def Sends (sent : Except Failure Response) : Prop :=
  ∃ request, buildRequest (InMemory.services send) channel id given c (m, t) = (.ok request, m, t)
    ∧ (send request t).1 = sent

/-- The faults that leave a step. -/
inductive StepFault : Fault → Prop where
  /-- The request is not formed. -/
  | request {f : Fault} (h : RequestFault send m t c given f) : StepFault f
  /-- The client reports a fault from outside the exchange. -/
  | sending {f : Fault} (h : Sends send channel id given c m t (.error (.fault f)))
    (houtside : f.isExchange = false) : StepFault f
  /-- There is trouble in the exchange, and it has no text. -/
  | wordless {f : Fault} (h : Sends send channel id given c m t (.error (.fault f)))
    (hexchange : f.isExchange = true) (hlong : f.isWritable = false) :
    StepFault (.numeral .tooLongToWrite)
  /-- The response is not read. -/
  | answer {a : Response} {f : Fault} (h : Sends send channel id given c m t (.ok a))
    (hf : AnswerFault a f) : StepFault f

/-- What becomes of a step. -/
structure HttpOutcome (outcome : Except Failure Value) : Prop where
  /-- There is an output exactly if a response yields it. -/
  returned : ∀ v, outcome = .ok v ↔ ∃ a, Sends send channel id given c m t (.ok a) ∧ Yields a v
  /-- A problem that a response shows is reported with the status and the text of the response. -/
  shown : ∀ a p, Sends send channel id given c m t (.ok a) → Shows a p →
    outcome = .error (.service p) ∧ p.statusCode = a.status
      ∧ ∃ body, a.text = .ok body ∧ p.body = .text body
  /-- Trouble in the exchange that has a text is reported as a problem of the service. -/
  unreachable : ∀ f, Sends send channel id given c m t (.error (.fault f)) → f.isExchange = true →
    f.isWritable = true → outcome = .error (.service (.unreachable f))
  /-- A fault leaves the step exactly if it is one of those listed. -/
  broken : ∀ f, outcome = .error (.fault f) ↔ StepFault send channel id given c m t f
  /-- Any other failure is of a known kind. -/
  known : ∀ x, outcome = .error x →
    x.kind? ≠ none ∨ ∃ f, StepFault send channel id given c m t f ∧ x = .fault f
  /-- No fault of the exchange leaves the step. -/
  exchange : ∀ f, outcome = .error (.fault f) → f.isExchange = false

variable {send channel id given c m t} {f : Fault}

theorem buildRequest_eq_ok_iff {request : Request} :
    (buildRequest (InMemory.services send) channel id given c (m, t)).1 = .ok request ↔
      buildRequest (InMemory.services send) channel id given c (m, t) = (.ok request, m, t) :=
  ⟨fun h => Prod.ext h (buildRequest_leaves send channel id given c (m, t)), congrArg Prod.fst⟩

/-- A step forms its request, sends it and reads the answer. -/
theorem runStep_inMemory :
    (runStep (InMemory.services send) channel id given c (m, t)).1 =
      ((buildRequest (InMemory.services send) channel id given c (m, t)).1 >>= fun request =>
        readAnswer (send request t).1) :=
  Act.andThen_outcome (buildRequest_leaves send channel id given c (m, t))

theorem runStep_of_sends {sent : Except Failure Response}
    (h : Sends send channel id given c m t sent) :
    (runStep (InMemory.services send) channel id given c (m, t)).1 = readAnswer sent := by
  obtain ⟨request, hrequest, rfl⟩ := h
  rw [runStep_inMemory, hrequest, ok_bind]

/-- A fault comes of a failed request where the failure is one from outside the exchange, or one of
the exchange without a text. -/
theorem sendFailure_eq_fault_iff {x : Failure} :
    sendFailure x = .fault f ↔ x = .fault f ∧ f.isExchange = false ∨
      ∃ g, x = .fault g ∧ g.isExchange = true ∧ g.isWritable = false ∧
        f = .numeral .tooLongToWrite := by
  cases x with
  | fault g =>
    rw [sendFailure]
    cases hexchange : g.isExchange with
    | true =>
      have houtside : ¬ (Failure.fault g = .fault f ∧ f.isExchange = false) := fun h =>
        Bool.false_ne_true (h.2.symm.trans (Failure.fault.inj h.1 ▸ hexchange))
      rw [if_pos rfl, or_iff_right houtside]
      cases hwritable : g.isWritable with
      | true =>
        refine iff_of_false nofun ?_
        rintro ⟨g', heq, -, hlong, -⟩
        cases hwritable.symm.trans (Failure.fault.inj heq ▸ hlong)
      | false =>
        constructor
        · exact fun h => ⟨g, rfl, hexchange, hwritable, (Failure.fault.inj h).symm⟩
        · rintro ⟨_, -, -, -, rfl⟩
          rfl
    | false =>
      simp only [Bool.false_eq_true, if_false, Failure.fault.injEq]
      constructor
      · rintro rfl
        exact .inl ⟨rfl, hexchange⟩
      · rintro (⟨heq, -⟩ | ⟨g', rfl, hexchange', -⟩)
        · exact heq
        · cases hexchange.symm.trans hexchange'
  | _ => simp [sendFailure]

/-- A text that is not decoded is at fault with its media type or its character set. -/
theorem isExchange_of_text {r : Response} (h : r.text = .error f) : f.isExchange = false := by
  unfold Response.text at h
  split_ifs at h
  rcases bind_eq_error_iff.mp h with h | ⟨charset, -, h⟩
  · rcases bind_eq_error_iff.mp h with h | ⟨name, -, h⟩
    · obtain ⟨e, -, rfl⟩ := mapError_eq_error_iff.mp h
      rfl
    · cases name with
      | none => cases h
      | some name =>
        obtain ⟨e, -, rfl⟩ := mapError_eq_error_iff.mp h
        rfl
  · obtain ⟨e, -, rfl⟩ := mapError_eq_error_iff.mp h
    rfl

theorem EndpointFault.isExchange_eq {config : HttpConfig} (h : EndpointFault m config f) :
    f.isExchange = false := by
  cases h with
  | method => rfl
  | headers _ _ _ _ _ h => cases h <;> rfl

theorem StepFault.isExchange_eq (h : StepFault send channel id given c m t f) :
    f.isExchange = false := by
  cases h with
  | request h =>
    cases h with
    | endpoint h => exact h.isExchange_eq
    | bodyText _ _ _ _ _ hf => cases hf <;> rfl
    | _ => rfl
  | sending _ houtside => exact houtside
  | wordless => rfl
  | answer _ hf =>
    cases hf with
    | text _ htext => exact isExchange_of_text htext
    | _ => rfl

/-- A fault leaves the step exactly if it is one of those listed. -/
theorem runStep_eq_fault_iff :
    (runStep (InMemory.services send) channel id given c (m, t)).1 = .error (.fault f)
      ↔ StepFault send channel id given c m t f := by
  constructor
  · intro h
    rw [runStep_inMemory] at h
    rcases bind_eq_error_iff.mp h with h | ⟨request, hrequest, h⟩
    · exact .request (buildRequest_eq_fault_iff.mp h)
    · have hsends : Sends send channel id given c m t (send request t).1 :=
        ⟨request, buildRequest_eq_ok_iff.mp hrequest, rfl⟩
      rcases hsent : (send request t).1 with x | a <;> rw [hsent] at h hsends
      · rcases sendFailure_eq_fault_iff.mp (Except.error.inj h) with
          ⟨rfl, houtside⟩ | ⟨g, rfl, hexchange, hlong, rfl⟩
        · exact .sending hsends houtside
        · exact .wordless hsends hexchange hlong
      · rcases readResponse_eq_error_iff.mp h with ⟨p, -, ⟨⟩⟩ | ⟨g, hg, heq⟩
        rw [Failure.fault.inj heq]
        exact .answer hsends hg
  · intro h
    cases h with
    | request h =>
      rw [runStep_inMemory, buildRequest_eq_fault_iff.mpr h]
      rfl
    | sending h houtside =>
      rw [runStep_of_sends h]
      exact congrArg _ (sendFailure_eq_fault_iff.mpr (.inl ⟨rfl, houtside⟩))
    | wordless h hexchange hlong =>
      rw [runStep_of_sends h]
      exact congrArg _ (sendFailure_eq_fault_iff.mpr (.inr ⟨_, rfl, hexchange, hlong, rfl⟩))
    | answer h hf =>
      rw [runStep_of_sends h]
      exact hf.readResponse_eq

end

/-- An HTTP step on services in memory returns what the response yields, and reports a failure
status, a malformed JSON text and an unreachable server as problems of the service, as far as these
have texts.  The faults that leave it are listed by `StepFault`; everything else that it fails with
is of a known kind. -/
theorem http_outcome {τ : Type} (send : Request → Act τ Response) (channel : Channel) (id : String)
    (given : Option HttpConfig) (c : Context) (m : InMemory) (t : τ) :
    HttpOutcome send channel id given c m t
      (runStep (InMemory.services send) channel id given c (m, t)).1 where
  returned v := by
    constructor
    · intro h
      rw [runStep_inMemory] at h
      obtain ⟨request, hrequest, h⟩ := bind_eq_ok_iff.mp h
      rcases hsent : (send request t).1 with x | a <;> rw [hsent] at h
      · cases h
      · exact ⟨a, ⟨request, buildRequest_eq_ok_iff.mp hrequest, hsent⟩,
          readResponse_eq_ok_iff.mp h⟩
    · rintro ⟨a, h, hv⟩
      rw [runStep_of_sends h]
      exact readResponse_eq_ok_iff.mpr hv
  shown a p h hp := by
    refine ⟨?_, hp.details⟩
    rw [runStep_of_sends h]
    exact hp.readResponse_eq
  unreachable f h hexchange hwritable := by
    rw [runStep_of_sends h, readAnswer, sendFailure, if_pos hexchange, if_pos hwritable]
  broken f := runStep_eq_fault_iff
  known x h := by
    cases x with
    | fault f => exact .inr ⟨f, runStep_eq_fault_iff.mp h, rfl⟩
    | _ => exact .inl nofun
  exchange f h := (runStep_eq_fault_iff.mp h).isExchange_eq

/-- A client for which every request ends in the same way. -/
def ending (outcome : Except Failure Response) : Request → Act Unit Response :=
  fun _ t => (outcome, t)

/-- A step that sends a request to a URL of its own. -/
def quoteConfig : HttpConfig := { url := some "http://quotes" }

/-- A response of a server that has no time. -/
def busyResponse : Response := ⟨.int 503, ⟨[]⟩, Utf8.encode "busy"⟩

theorem http_outcome_busy :
    (runStep (InMemory.services (ending (.ok busyResponse))) .shared "quote" (some quoteConfig)
        Context.bare ({}, ())).1
      = .error (.service (.status (.int 503) "Service Unavailable" "busy")) := by
  have hsends : Sends (ending (.ok busyResponse)) .shared "quote" (some quoteConfig) Context.bare
      {} () (.ok busyResponse) := ⟨_, rfl, rfl⟩
  have hshows : Shows busyResponse (.status (.int 503) "Service Unavailable" "busy") :=
    .status rfl (by decide +kernel) rfl
  exact ((http_outcome _ _ _ _ _ _ _).shown _ _ hsends hshows).1

/-- An endpoint whose stored headers break off. -/
def brokenStore : InMemory :=
  { proxies := [("quotes", .raw (.record
      [("targetUrl", .text "http://quotes"), ("encryptedHeaders", .text "\x7b")]))] }

/-- A fault in the stored headers leaves the step, and so does a URL that the client refuses; no
rule knows a kind for them. -/
theorem faults_leave_step :
    (runStep (InMemory.services (ending (.ok busyResponse))) .shared "quote"
        (some { proxyId := some "quotes" }) Context.bare (brokenStore, ())).1
      = .error (.fault (.json .truncated))
    ∧ (runStep (InMemory.services (ending (.error (.fault (.reported .url [.text "bad"])))))
        .shared "quote" (some quoteConfig) Context.bare ({}, ())).1
      = .error (.fault (.reported .url [.text "bad"]))
    ∧ (Failure.fault (.json .truncated)).kind? = none
    ∧ (Failure.fault (.reported .url [.text "bad"])).kind? = none :=
  ⟨rfl, rfl, rfl, rfl⟩

end Workflow.Http
