import Workflow.Proofs.Service.Acts
import Workflow.Step.Handler

/-!
# Attempts at steps and the outside world

A handler that serves the kind of a step reads what the step has (`Handler.Serves`), and there is
one for each kind (`serves_handler`).  An attempt finds this one, so it goes as the kind of the step
says (`Step.perform_eq`); a handler of another kind has nothing to read
(`Handler.execute_of_not_serves`).  An on-chain step submits what it prepares from the context
(`Step.perform_of_prepare?`).

Handlers touch the outside world only by calls of their services.  So they keep what all calls of
their services keep (`perform_keeps`), and what the calls of one set of services are to those of
another, the attempts are to each other (`perform_refines`).
-/

namespace Workflow

variable {σ τ : Type}

/-! ### Handlers and kinds of steps -/

/-- A handler serves the steps with actions of its kind. -/
inductive Handler.Serves : Handler → Action → Prop where
  | http (config : Option HttpConfig) : Serves .http (.http config)
  | onchain (op : Option Operation) : Serves .onchain (.onchain op)
  | onchainBatch (ops : Option (List Operation)) : Serves .onchainBatch (.onchainBatch ops)
  | condition (config : Option ConditionConfig) : Serves .condition (.condition config)
  | transform (expression : Option Value) : Serves .transform (.transform expression)

theorem serves_handler (step : Step) : step.handler.Serves step.action := by
  rw [Step.handler]
  cases step.action with
  | http config => exact .http config
  | onchain op => exact .onchain op
  | onchainBatch ops => exact .onchainBatch ops
  | condition config => exact .condition config
  | transform expression => exact .transform expression

/-- There is one handler that serves a step. -/
theorem Handler.serves_iff {handler : Handler} {step : Step} :
    handler.Serves step.action ↔ handler = step.handler := by
  constructor
  · intro h
    rw [Step.handler]
    cases hserves : step.action <;> rw [hserves] at h <;> cases h <;> rfl
  · rintro rfl
    exact serves_handler step

/-- A handler that does not serve a step does not find in it what it reads. -/
theorem Handler.execute_of_not_serves {handler : Handler} {step : Step}
    (h : ¬ handler.Serves step.action) (services : Services σ) (channel : Http.Channel)
    (c : Context) : handler.execute services channel step c
      = Act.done (.error (.fault (.noMember step.action.className handler.member))) := by
  unfold Handler.execute
  split
  · next config haction => exact absurd (haction ▸ .http config) h
  · next op haction => exact absurd (haction ▸ .onchain op) h
  · next ops haction => exact absurd (haction ▸ .onchainBatch ops) h
  · next config haction => exact absurd (haction ▸ .condition config) h
  · next expression haction => exact absurd (haction ▸ .transform expression) h
  · rfl

/-- An attempt at a step goes as its kind says. -/
theorem Step.perform_eq (step : Step) (services : Services σ) (channel : Http.Channel)
    (c : Context) : step.perform services channel c = match step.action with
      | .http config => Http.runStep services channel step.id config c
      | .onchain op => submitPrepared services (prepareOnchain step.id op c)
      | .onchainBatch ops => submitPrepared services (prepareOnchainBatch step.id ops c)
      | .condition config => Act.done (evaluateCondition step.id config c)
      | .transform expression => Act.done (evaluateTransform step.id expression c) := by
  rw [perform, Candidate.handler, Act.done_ok_andThen, Step.handler]
  unfold Handler.execute
  cases step.action <;> rfl

/-! ### On-chain steps -/

/-- A step that submits a transaction with one call or with several. -/
def Step.IsOnchain (step : Step) : Prop :=
  step.handler = .onchain ∨ step.handler = .onchainBatch

instance Step.decidableIsOnchain (step : Step) : Decidable step.IsOnchain :=
  inferInstanceAs (Decidable (step.handler = .onchain ∨ step.handler = .onchainBatch))

/-- What an on-chain step prepares in a context; other steps prepare nothing. -/
def Step.prepare? (step : Step) (c : Context) : Option (Except Failure Prepared) :=
  match step.action with
  | .onchain op => some (prepareOnchain step.id op c)
  | .onchainBatch ops => some (prepareOnchainBatch step.id ops c)
  | _ => none

theorem Step.isOnchain_iff (step : Step) (c : Context) :
    step.IsOnchain ↔ ∃ prepared, step.prepare? c = some prepared := by
  rw [Step.IsOnchain, Step.handler, Step.prepare?]
  cases step.action <;> simp

/-- An attempt at an on-chain step submits what the step prepares. -/
theorem Step.perform_of_prepare? {step : Step} {c : Context}
    {prepared : Except Failure Prepared} (h : step.prepare? c = some prepared)
    (services : Services σ) (channel : Http.Channel) :
    step.perform services channel c = submitPrepared services prepared := by
  rw [step.perform_eq]
  unfold Step.prepare? at h
  split at h
  · next op haction =>
    rw [haction, ← Option.some.inj h]
  · next ops haction =>
    rw [haction, ← Option.some.inj h]
  · cases h

/-! ### What handlers keep -/

/-- The calls that HTTP steps make of some services keep what holds of the world. -/
structure Services.HttpKeeps (services : Services σ) (P : σ → Prop) : Prop
    extends services.LookupsKeep P where
  /-- Sending requests does. -/
  send : ∀ request, (services.send request).Keeps P

/-- All calls of some services keep what holds of the world. -/
structure Services.Keeps (services : Services σ) (P : σ → Prop) : Prop
    extends services.HttpKeeps P where
  /-- Submitting transactions does. -/
  submit : ∀ request, (services.submit request).Keeps P

theorem Http.endpointOf_keeps {services : Services σ} {P : σ → Prop} (h : services.LookupsKeep P)
    (id : String) (config : HttpConfig) : (Http.endpointOf services id config).Keeps P := by
  have hstored : ∀ stored, (Http.storedHeaders services stored).Keeps P := by
    intro stored
    unfold Http.storedHeaders
    split_ifs
    · exact h.revealHeaders stored
    · exact .done _
  unfold Http.endpointOf
  split
  · exact .done _
  · exact (h.findProxy _).andThen fun found => (Act.Keeps.done _).andThen fun proxy =>
      (Act.Keeps.done _).andThen fun method => (hstored _).andThen fun revealed => .done _
  · exact .done _
  · exact .done _

theorem Http.buildRequest_keeps {services : Services σ} {P : σ → Prop} (h : services.LookupsKeep P)
    (channel : Http.Channel) (id : String) (config : Option HttpConfig) (c : Context) :
    (Http.buildRequest services channel id config c).Keeps P := by
  cases config with
  | none => exact .done _
  | some config => exact (Http.endpointOf_keeps h id config).andThen fun endpoint => .done _

theorem Http.runStep_keeps {services : Services σ} {P : σ → Prop} (h : services.HttpKeeps P)
    (channel : Http.Channel) (id : String) (config : Option HttpConfig) (c : Context) :
    (Http.runStep services channel id config c).Keeps P :=
  (Http.buildRequest_keeps h.toLookupsKeep channel id config c).andThen fun request =>
    (h.send request).mapOutcome _

theorem submitPrepared_keeps {services : Services σ} {P : σ → Prop}
    (h : ∀ request, (services.submit request).Keeps P) (prepared : Except Failure Prepared) :
    (submitPrepared services prepared).Keeps P :=
  (Act.Keeps.done prepared).andThen fun p => ((h p.request).mapOutcome _).mapOutcome _

/-- Handlers keep what all calls of their services keep. -/
theorem perform_keeps {services : Services σ} {P : σ → Prop} (h : services.Keeps P)
    (channel : Http.Channel) (step : Step) (c : Context) :
    (step.perform services channel c).Keeps P := by
  rw [step.perform_eq]
  cases step.action with
  | http config => exact Http.runStep_keeps h.toHttpKeeps channel step.id config c
  | onchain op => exact submitPrepared_keeps h.submit _
  | onchainBatch ops => exact submitPrepared_keeps h.submit _
  | condition config => exact .done _
  | transform expression => exact .done _

/-! ### Services under a view of the outside world -/

/-- Services on a larger world that are, under a view of that world, other services. -/
structure Services.Refines (view : τ → σ) (fine : Services τ) (coarse : Services σ) : Prop where
  /-- Endpoints are looked up alike. -/
  findProxy : ∀ id, Act.Refines view (fine.findProxy id) (coarse.findProxy id)
  /-- Headers are revealed alike. -/
  revealHeaders : ∀ stored, Act.Refines view (fine.revealHeaders stored)
    (coarse.revealHeaders stored)
  /-- Requests are sent alike. -/
  send : ∀ request, Act.Refines view (fine.send request) (coarse.send request)
  /-- Transactions are submitted alike. -/
  submit : ∀ request, Act.Refines view (fine.submit request) (coarse.submit request)

section

variable {view : τ → σ} {fine : Services τ} {coarse : Services σ}
  (h : Services.Refines view fine coarse)
include h

theorem Http.endpointOf_refines (id : String) (config : HttpConfig) :
    Act.Refines view (Http.endpointOf fine id config) (Http.endpointOf coarse id config) := by
  have hstored : ∀ stored,
      Act.Refines view (Http.storedHeaders fine stored) (Http.storedHeaders coarse stored) := by
    intro stored
    unfold Http.storedHeaders
    split_ifs
    · exact h.revealHeaders stored
    · exact .done view _
  unfold Http.endpointOf
  split
  · exact .done view _
  · exact (h.findProxy _).andThen fun found => (Act.Refines.done view _).andThen fun proxy =>
      (Act.Refines.done view _).andThen fun method =>
        (hstored _).andThen fun revealed => .done view _
  · exact .done view _
  · exact .done view _

theorem Http.buildRequest_refines (channel : Http.Channel) (id : String)
    (config : Option HttpConfig) (c : Context) :
    Act.Refines view (Http.buildRequest fine channel id config c)
      (Http.buildRequest coarse channel id config c) := by
  cases config with
  | none => exact .done view _
  | some config => exact (Http.endpointOf_refines h id config).andThen fun endpoint => .done view _

theorem Http.runStep_refines (channel : Http.Channel) (id : String) (config : Option HttpConfig)
    (c : Context) :
    Act.Refines view (Http.runStep fine channel id config c)
      (Http.runStep coarse channel id config c) :=
  (Http.buildRequest_refines h channel id config c).andThen fun request =>
    (h.send request).mapOutcome _

theorem submitPrepared_refines (prepared : Except Failure Prepared) :
    Act.Refines view (submitPrepared fine prepared) (submitPrepared coarse prepared) :=
  (Act.Refines.done view prepared).andThen fun p =>
    ((h.submit p.request).mapOutcome _).mapOutcome _

/-- Handlers notice of their services only what these do. -/
theorem perform_refines (channel : Http.Channel) (step : Step) (c : Context) :
    Act.Refines view (step.perform fine channel c) (step.perform coarse channel c) := by
  rw [step.perform_eq, step.perform_eq]
  cases step.action with
  | http config => exact Http.runStep_refines h channel step.id config c
  | onchain op => exact submitPrepared_refines h _
  | onchainBatch ops => exact submitPrepared_refines h _
  | condition config => exact .done view _
  | transform expression => exact .done view _

end

end Workflow
