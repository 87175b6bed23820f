import Workflow.Proofs.Engine.Attempts
import Workflow.Proofs.Service.Noting

/-!
# The traffic of a run

`Services.tapped` turns outside services into services that also note every HTTP request and every
transaction, in the order in which they go out.  The notes of a whole run are `Definition.traffic`.
Taking them changes nothing else (`tapping_refines`), and no handler ever takes a note back
(`traffic_prefix_tapping`).
-/

namespace Workflow

variable {σ : Type}

/-- What goes out to a service, with how the call ended. -/
inductive Message where
  /-- An HTTP request. -/
  | request (request : Http.Request) (outcome : Except Failure Http.Response)
  /-- A transaction. -/
  | transaction (request : TransactionRequest) (outcome : Except Failure Value)

/-- Services that note what goes out to them behind what was noted before. -/
def Services.tapped (services : Services σ) : Services (σ × List Message) where
  findProxy id := (services.findProxy id).beside
  revealHeaders stored := (services.revealHeaders stored).beside
  send request := (services.send request).noted (.request request)
  submit request := (services.submit request).noted (.transaction request)

/-- The handlers of a run whose traffic is noted. -/
def tapping (services : Services σ) (channel : Http.Channel) (step : Step) (c : Context) :
    Act (σ × List Message) Value := step.perform services.tapped channel c

/-- The traffic of a run, in order. -/
def Definition.traffic (d : Definition) (services : Services σ) (channel : Http.Channel)
    (options : Options) (now : Value) (params : RunParams) (s : σ) : List Message :=
  (d.run (tapping services channel) options now params (s, [])).world.2

theorem tapped_refines (services : Services σ) :
    Services.Refines Prod.fst services.tapped services :=
  ⟨fun _ _ => rfl, fun _ _ => rfl, fun _ _ => rfl, fun _ _ => rfl⟩

theorem tapping_refines (services : Services σ) (channel : Http.Channel) (step : Step)
    (c : Context) :
    Act.Refines Prod.fst (tapping services channel step c) (step.perform services channel c) :=
  perform_refines (tapped_refines services) channel step c

/-- What has gone out has gone out. -/
theorem traffic_prefix_tapping (services : Services σ) (channel : Http.Channel) (step : Step)
    (c : Context) (t : σ × List Message) : t.2 <+: (tapping services channel step c t).2.2 := by
  have hservices : services.tapped.Keeps fun t' => t.2 <+: t'.2 :=
    ⟨⟨⟨fun _ _ h => h, fun _ _ h => h⟩, fun _ _ h => h.trans (List.prefix_append _ _)⟩,
      fun _ _ h => h.trans (List.prefix_append _ _)⟩
  exact perform_keeps hservices channel step c t List.prefix_rfl

end Workflow
