import Workflow.Proofs.Call.Readiness
import Workflow.Proofs.Call.Submissions
import Workflow.Proofs.Http.Requests
import Workflow.Proofs.Service.Traffic

/-!
# What an attempt sends

An attempt at a step that reaches outside forms its request or its transaction as a whole before it
sends anything.  `Step.Unready` names the reasons for which there is nothing to send, those of HTTP
steps and those of on-chain steps, and `Step.Sends` describes what is sent otherwise.

Where there is a reason, the attempt fails and sends nothing (`tapping_of_unready`).  Where there is
none, one message goes out, a request or a transaction by the kind of the step
(`tapping_of_not_unready`).  What goes out is what `Services.tapped` notes.  All that an attempt
asks of the outside world before it sends are lookups, and they lead to `Step.lookedUp`.
-/

namespace Workflow

open Outcome

variable {σ : Type} {step : Step} {services : Services σ} {channel : Http.Channel} {c : Context}
  {s : σ} {log : List Message}

/-- The world behind the lookups of an attempt at a step: those for its endpoint, if it has any. -/
def Step.lookedUp (step : Step) (services : Services σ) (s : σ) : σ :=
  match step.action with
  | .http (some config) => (Http.endpointOf services step.id config s).2
  | _ => s

/-- Why an attempt at a step has nothing to send. -/
inductive Step.Unready (step : Step) (services : Services σ) (c : Context) (s : σ) : Prop where
  /-- The request of an HTTP step is not formed. -/
  | request {given : Option HttpConfig} (haction : step.action = .http given)
    (h : Http.Unready services s c given)
  /-- The transaction of an on-chain step is not formed. -/
  | transaction (honchain : step.IsOnchain) (h : step.CallsUnready c)

/-- What an attempt at a step sends: a request with the method that is asked for, which has a body
exactly if it is to have one, or a transaction with the calls of all operations in order. -/
inductive Step.Sends (step : Step) (services : Services σ) (c : Context) (s : σ) :
    Message → Prop where
  | request {config : HttpConfig} {r : Http.Request} (haction : step.action = .http (some config))
    (hmethod : config.HasMethod services s r.method)
    (hbody : r.content ≠ none ↔ config.HasBody r.method) :
    Sends step services c s (.request r (services.send r (step.lookedUp services s)).1)
  | transaction {r : TransactionRequest} {calls : List Call} (honchain : step.IsOnchain)
    (hcalls : List.Forall₂ (fun op call => op.toCall c = .ok call) step.operations calls)
    (hcarried : r.calls = .ok (calls.map Call.lower)) :
    Sends step services c s (.transaction r (services.submit r s).1)

/-! ### Lookups -/

theorem Step.lookedUp_of_isOnchain (h : step.IsOnchain) (services : Services σ) (s : σ) :
    step.lookedUp services s = s := by
  unfold Step.lookedUp
  split
  · next config haction => rcases h with h | h <;> simp [Step.handler, haction] at h
  · rfl

/-- Lookups are all that is behind the request of an HTTP step. -/
theorem Step.buildRequest_world {given : Option HttpConfig} (h : step.action = .http given)
    (services : Services σ) (channel : Http.Channel) (c : Context) (s : σ) :
    (Http.buildRequest services channel step.id given c s).2 = step.lookedUp services s := by
  rw [Step.lookedUp, h]
  cases given with
  | none => rfl
  | some config => exact Http.buildRequest_world services channel step.id config c s

theorem Step.lookedUp_looksUp (step : Step) (services : Services σ) (s : σ) :
    services.LooksUp s (step.lookedUp services s) := by
  unfold Step.lookedUp
  split
  · exact Http.endpointOf_keeps (services.lookupsKeep_looksUp s) _ _ s (.refl services s)
  · exact .refl services s

/-- A request is formed in the same way when messages are noted, and forming it is none. -/
theorem buildRequest_tapped (services : Services σ) (channel : Http.Channel) (id : String)
    (given : Option HttpConfig) (c : Context) (s : σ) (log : List Message) :
    Http.buildRequest services.tapped channel id given c (s, log)
      = ((Http.buildRequest services channel id given c s).1,
        (Http.buildRequest services channel id given c s).2, log) := by
  have hview := Http.buildRequest_refines (tapped_refines services) channel id given c (s, log)
  have hlookups : services.tapped.LookupsKeep fun t => t.2 = log := ⟨fun _ _ h => h, fun _ _ h => h⟩
  have hlog := Http.buildRequest_keeps hlookups channel id given c (s, log) rfl
  rw [hview]
  exact Prod.ext rfl (Prod.ext rfl hlog)

/-! ### Nothing to send -/

theorem tapping_http {given : Option HttpConfig} (h : step.action = .http given) :
    tapping services channel step c = Http.runStep services.tapped channel step.id given c := by
  rw [tapping, step.perform_eq, h]

/-- With a reason against it, an attempt fails and sends nothing. -/
theorem tapping_of_unready (h : step.Unready services c s) :
    ∃ e, tapping services channel step c (s, log)
      = (.error e, step.lookedUp services s, log) := by
  cases h with
  | @request given haction h =>
    have hfails : (Http.buildRequest services channel step.id given c).Fails s :=
      Http.buildRequest_fails_iff.mpr h
    obtain ⟨e, s', he⟩ := hfails
    refine ⟨e, ?_⟩
    rw [tapping_http haction, ← Step.buildRequest_world haction services channel c s, he]
    refine Http.runStep_of_error ?_
    rw [buildRequest_tapped, he]
  | transaction honchain h =>
    obtain ⟨prepared, hprepare⟩ := (step.isOnchain_iff c).mp honchain
    obtain ⟨e, rfl⟩ := (Step.prepare?_fails_iff hprepare).mpr h
    refine ⟨e, ?_⟩
    rw [tapping, Step.perform_of_prepare? hprepare, step.lookedUp_of_isOnchain honchain]
    rfl

/-! ### One message -/

theorem tapping_http_of_not_unready {given : Option HttpConfig} (h : step.action = .http given)
    (hready : ¬ Http.Unready services s c given) :
    ∃ m, step.Sends services c s m ∧
      (tapping services channel step c (s, log)).2.2 = log ++ [m] := by
  have hformed : ¬ (Http.buildRequest services channel step.id given c).Fails s :=
    mt Http.buildRequest_fails_iff.mp hready
  obtain ⟨r, s', hr⟩ := Act.not_fails_iff.mp hformed
  have hworld := Step.buildRequest_world h services channel c s
  obtain ⟨config, rfl, hmethod, hbody⟩ := Http.of_buildRequest_eq_ok hr
  refine ⟨_, .request h hmethod hbody, ?_⟩
  have hsent : Http.buildRequest services.tapped channel step.id (some config) c (s, log)
      = (.ok r, step.lookedUp services s, log) := by
    rw [buildRequest_tapped, hworld, hr]
  rw [tapping_http h, Http.runStep_of_ok hsent]
  rfl

theorem tapping_onchain_of_not_unready (h : step.IsOnchain) (hready : ¬ step.CallsUnready c) :
    ∃ m, step.Sends services c s m ∧
      (tapping services channel step c (s, log)).2.2 = log ++ [m] := by
  obtain ⟨prepared, hprepare⟩ := (step.isOnchain_iff c).mp h
  rw [← Step.prepare?_fails_iff hprepare, not_fails_iff] at hready
  obtain ⟨p, rfl⟩ := hready
  obtain ⟨calls, hcalls, -, hcarries⟩ := Step.carries_of_prepare? hprepare
  refine ⟨_, .transaction h (mapM_eq_ok_iff.mp hcalls) hcarries.calls_eq, ?_⟩
  rw [tapping, Step.perform_of_prepare? hprepare, submitPrepared_ok]
  rfl

/-- Without a reason against it, an attempt sends one message. -/
theorem tapping_of_not_unready (hreaches : step.handler = .http ∨ step.IsOnchain)
    (h : ¬ step.Unready services c s) :
    ∃ m, step.Sends services c s m ∧
      (tapping services channel step c (s, log)).2.2 = log ++ [m] := by
  rcases hreaches with hhttp | honchain
  · unfold Step.handler at hhttp
    cases haction : step.action with
    | http given => exact tapping_http_of_not_unready haction (mt (.request haction) h)
    | _ => simp [haction] at hhttp
  · exact tapping_onchain_of_not_unready honchain (mt (.transaction honchain) h)

/-- **Nothing before everything.** An attempt at a step that reaches outside does the same whether
what it sends is noted or not.  With a reason against it, the attempt fails and sends nothing.
Without one, it sends one message, a request from an HTTP step and a transaction from an on-chain
step.  Before that the world has only been looked up in, and by an on-chain step not even that. -/
theorem sends_once_or_fails (services : Services σ) (channel : Http.Channel) (step : Step)
    (c : Context) (s : σ) (log : List Message) (hreaches : step.handler = .http ∨ step.IsOnchain) :
    step.perform services channel c s
        = ((tapping services channel step c (s, log)).1,
          (tapping services channel step c (s, log)).2.1) ∧
    (step.Unready services c s →
      ∃ e, tapping services channel step c (s, log)
        = (.error e, step.lookedUp services s, log)) ∧
    (¬ step.Unready services c s → ∃ m, step.Sends services c s m ∧
      (tapping services channel step c (s, log)).2.2 = log ++ [m]) ∧
    services.LooksUp s (step.lookedUp services s) ∧
    (step.IsOnchain → step.lookedUp services s = s) :=
  ⟨tapping_refines services channel step c (s, log), tapping_of_unready,
    tapping_of_not_unready hreaches, step.lookedUp_looksUp services s,
    fun honchain => step.lookedUp_of_isOnchain honchain services s⟩

/-- Services with one stored endpoint, whose method is in lower case. -/
def switchboard : Services Nat :=
  { closing with
    findProxy := fun id => Act.done (.ok (
      if id = "desk" then some (.record { targetUrl := .text "desk", httpMethod := .text "post" })
      else none)) }

/-- A message to the stored endpoint. -/
def deskMessage : Step :=
  ⟨{ id := "tell" }, .http (some { proxyId := some "desk", body := .text "hello" })⟩

/-- A batch of two payments, the second one to the target that is given. -/
def paymentsTo (target : String) : Step :=
  ⟨{ id := "pay" }, .onchainBatch (some [
    { target := "0x00000000000000000000000000000000000000aa", calldata := some "0x" },
    { target, calldata := some "0x" }])⟩

theorem deskMessage_ready : ¬ deskMessage.Unready switchboard emptyContext 0 := by
  have hformed : ¬ (Http.buildRequest switchboard .shared "tell"
      (some { proxyId := some "desk", body := .text "hello" }) emptyContext).Fails 0 :=
    Act.not_fails_iff.mpr ⟨_, _, rfl⟩
  intro hunready
  cases hunready with
  | request haction h =>
    cases haction
    exact hformed (Http.buildRequest_fails_iff.mpr h)
  | transaction honchain => rcases honchain with h | h <;> cases h

theorem deskMessage_method {config : HttpConfig} (h : deskMessage.action = .http (some config))
    {method : String} (hmethod : config.HasMethod switchboard 0 method) : method = "POST" := by
  cases h
  have hproxy : switchboard.Finds "desk" 0
      { targetUrl := .text "desk", httpMethod := .text "post" } 0 := ⟨_, rfl, .record rfl⟩
  have hpost := (Http.hasMethod_iff_of_finds rfl hproxy).mp hmethod
  have hupper : Http.proxyMethod (.text "post") = .ok "POST" := by cbv
  exact Except.ok.inj (hpost.symm.trans hupper)

theorem paymentsTo_ready : ¬ (paymentsTo "0x00000000000000000000000000000000000000bb").Unready
    switchboard emptyContext 0 := by
  intro hunready
  cases hunready with
  | request haction => cases haction
  | transaction honchain h =>
    rw [← Step.prepare?_fails_iff rfl] at h
    exact not_fails_of_isOk (by decide +kernel) h

/-- The message goes out with its body; the batch goes out as a whole, and not at all if its second
target is not resolved. -/
theorem sends_once_or_fails_switchboard :
    (deskMessage.handler = .http ∧ ∃ r outcome,
      (tapping switchboard .shared deskMessage emptyContext (0, [])).2.2 = [.request r outcome] ∧
        r.content ≠ none) ∧
    ((paymentsTo "0x00000000000000000000000000000000000000bb").IsOnchain ∧ ∃ r outcome calls,
      (tapping switchboard .shared (paymentsTo "0x00000000000000000000000000000000000000bb")
        emptyContext (0, [])).2.2 = [.transaction r outcome] ∧ r.calls = .ok calls ∧
        calls.length = 2) ∧
    (paymentsTo "$.input.to").IsOnchain ∧ ∃ e,
      tapping switchboard .shared (paymentsTo "$.input.to") emptyContext (0, [])
        = (.error e, 0, []) := by
  refine ⟨⟨rfl, ?_⟩, ⟨Or.inr rfl, ?_⟩, Or.inr rfl, ?_⟩
  · obtain ⟨m, hsends, hlog⟩ := (sends_once_or_fails switchboard .shared deskMessage emptyContext 0
      [] (Or.inl rfl)).2.2.1 deskMessage_ready
    cases hsends with
    | request haction hmethod hbody =>
      refine ⟨_, _, hlog, hbody.mpr ?_⟩
      -- The stored `post` takes a body only because it is judged in upper case.
      rw [deskMessage_method haction hmethod]
      cases haction
      exact ⟨List.mem_cons_self, nofun⟩
    | transaction honchain => rcases honchain with h | h <;> cases h
  · obtain ⟨m, hsends, hlog⟩ := (sends_once_or_fails switchboard .shared
      (paymentsTo "0x00000000000000000000000000000000000000bb") emptyContext 0 []
      (Or.inr (Or.inr rfl))).2.2.1 paymentsTo_ready
    cases hsends with
    | request haction => cases haction
    | transaction honchain hcalls hcarried =>
      refine ⟨_, _, _, hlog, hcarried, ?_⟩
      rw [List.length_map, ← hcalls.length_eq]
      rfl
  · have hunready : (paymentsTo "$.input.to").Unready switchboard emptyContext 0 := by
      refine .transaction (Or.inr rfl) (.operation (List.mem_cons_of_mem _ List.mem_cons_self) ?_)
      exact .target ⟨.unresolved "$.input.to", by cbv⟩
    exact (sends_once_or_fails switchboard .shared (paymentsTo "$.input.to") emptyContext 0 []
      (Or.inr (Or.inr rfl))).2.1 hunready

end Workflow
