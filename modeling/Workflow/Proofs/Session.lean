import Workflow.Client
import Workflow.Proofs.Service.InMemory
import Workflow.Proofs.Service.Noting

/-!
# Runs one after the other

A client with services in memory may run many definitions, and each run meets the transactions that
the runs in front of it have recorded (`Client.session`).  Nothing that is read in a run depends on
them: executing a transaction looks at the allowed targets only (`execute_recorded`).  So the world
of a run is seen as what the run adds, laid upon what was there before it: `Services.added` are
services for which nothing else exists, and the services in memory agree with them under that view,
whatever was there (`added_refines`).  A run in a session and the same run alone are two views of
one run (`run_eq_under`), and a session is its runs side by side (`session_eq_alone`).
-/

namespace Workflow

/-! ### Sessions -/

/-- What a client is asked to run, and when. -/
structure Job where
  /-- The source of the definition. -/
  source : Value
  /-- The time at the start of the run. -/
  now : Value
  /-- The parameters of the run. -/
  params : RunParams
  /-- The declared variables, if there are any. -/
  declared : Option Value := none

/-- Services in memory, and the requests that have been sent, oldest first. -/
abbrev Surroundings := InMemory × List Http.Request

/-- Sends requests to which the answers are known, and keeps them. -/
def answering (answer : Http.Request → Except Failure Http.Response) (r : Http.Request) :
    Act (List Http.Request) Http.Response :=
  fun sent => (answer r, sent ++ [r])

/-- A client with services in memory. -/
def Client.inMemory (answer : Http.Request → Except Failure Http.Response) (options : Options)
    (sharesHttpClient : Bool) : Client Surroundings :=
  ⟨InMemory.services (answering answer), options, sharesHttpClient⟩

/-- What is seen of a run. -/
structure Conduct where
  /-- The outcome. -/
  outcome : Except Failure Result
  /-- The pauses between attempts. -/
  pauses : List Value
  /-- The spans. -/
  spans : List Span
  /-- The requests that the run has sent. -/
  requests : List Http.Request
  /-- The transactions that the run has recorded. -/
  transactions : List TransactionRequest

namespace Client

variable (client : Client Surroundings)

/-- Does a job. -/
def execute (job : Job) (s : Surroundings) : Execution Surroundings :=
  client.run job.source job.now job.params job.declared s

/-- What is seen of a run: of the surroundings, what was not there before. -/
def conduct (job : Job) (s : Surroundings) : Conduct :=
  let x := client.execute job s
  ⟨x.outcome, x.pauses, x.spans, x.world.2.drop s.2.length,
    x.world.1.transactions.drop s.1.transactions.length⟩

/-- Does jobs one after the other, each in the surroundings that the one before it
leaves behind: what is seen of each run, and the surroundings at the end. -/
def session : List Job → Surroundings → List Conduct × Surroundings
  | [], s => ([], s)
  | job :: jobs, s =>
    let (rest, last) := session jobs (client.execute job s).world
    (client.conduct job s :: rest, last)

end Client

/-- Services without a recorded transaction. -/
def InMemory.cleared (m : InMemory) : InMemory := { m with transactions := [] }

/-! ### What a run adds -/

/-- What a run adds to its surroundings. -/
abbrev Added := List TransactionRequest × List Http.Request

/-- The surroundings with something added. -/
def Surroundings.extended (s : Surroundings) (t : Added) : Surroundings :=
  (s.1.recorded t.1, s.2 ++ t.2)

/-- Services in memory that know only what has been added to them. -/
def Services.added (m : InMemory) (answer : Http.Request → Except Failure Http.Response) :
    Services Added where
  findProxy id := Act.done (.ok (m.findProxy id))
  revealHeaders stored := Act.done (plainHeaders stored)
  send r t := (answer r, t.1, t.2 ++ [r])
  submit r t :=
    let (outcome, m') := InMemory.execute r m.cleared
    (outcome, t.1 ++ m'.transactions, t.2)

/-- Executing a transaction takes no notice of those that are recorded. -/
theorem InMemory.execute_recorded (m : InMemory) (request : TransactionRequest)
    (before : List TransactionRequest) :
    InMemory.execute request (m.recorded before) =
      ((InMemory.execute request m.cleared).1,
        m.recorded (before ++ (InMemory.execute request m.cleared).2.transactions)) := by
  have hforbidden : ∀ calls, (m.recorded before).forbiddenTarget? calls
      = m.cleared.forbiddenTarget? calls := fun calls => rfl
  unfold InMemory.execute
  cases request.calls with
  | error e => simp [cleared]
  | ok calls =>
    simp only [hforbidden]
    cases m.cleared.forbiddenTarget? calls with
    | some target => simp [cleared]
    | none => simp [cleared, recorded]

section

variable (m : InMemory) (sent : List Http.Request)
  (answer : Http.Request → Except Failure Http.Response) (options : Options) (shares : Bool)

/-- Services in memory agree with those that know only what has been added. -/
theorem added_refines : Services.Refines (Surroundings.extended (m, sent)) (Services.added m answer)
    (InMemory.services (answering answer)) where
  findProxy _ _ := rfl
  revealHeaders _ _ := rfl
  send r t := by
    simp only [InMemory.services, answering, Services.added, Surroundings.extended,
      List.append_assoc]
  submit r t := by
    simp only [InMemory.services, Services.added, Surroundings.extended, InMemory.execute_recorded]

/-- The same run by a client that knows only what has been added. -/
def addedBy (job : Job) : Execution Added :=
  (⟨Services.added m answer, options, shares⟩ : Client Added).run job.source job.now
    job.params job.declared ([], [])

/-- A run adds to its surroundings, whatever is there already. -/
theorem run_eq_under (job : Job) :
    (Client.inMemory answer options shares).execute job (m, sent) =
      (addedBy m answer options shares job).under (Surroundings.extended (m, sent)) := by
  have hstart : Surroundings.extended (m, sent) ([], []) = (m, sent) := by
    simp [Surroundings.extended]
  have hprepare : (Client.inMemory answer options shares).prepare job.source job.params
      job.declared = (⟨Services.added m answer, options, shares⟩ : Client Added).prepare
        job.source job.params job.declared := rfl
  unfold Client.execute addedBy Client.run
  rw [hprepare]
  cases (⟨Services.added m answer, options, shares⟩ : Client Added).prepare job.source
    job.params job.declared with
  | error e => rw [Execution.under, hstart]
  | ok prepared =>
    have hrun := run_under (perform_refines (added_refines m sent answer)
      (Client.inMemory answer options shares).channel) prepared.1 options job.now prepared.2
      ([], [])
    rw [hstart] at hrun
    exact hrun

/-- What is seen of a run is what it adds. -/
theorem conduct_eq (job : Job) :
    (Client.inMemory answer options shares).conduct job (m, sent) =
      let x := addedBy m answer options shares job
      ⟨x.outcome, x.pauses, x.spans, x.world.2, x.world.1⟩ := by
  rw [Client.conduct, run_eq_under]
  simp [Execution.under, Surroundings.extended, InMemory.recorded]

/-- What a run leaves behind is what was there before it and what is seen of it. -/
theorem execute_world (job : Job) :
    let client := Client.inMemory answer options shares
    (client.execute job (m, sent)).world =
      (m.recorded (client.conduct job (m, sent)).transactions,
        sent ++ (client.conduct job (m, sent)).requests) := by
  intro client
  rw [conduct_eq, run_eq_under]
  rfl

/-- What is seen of a run does not depend on what was there before it. -/
theorem conduct_eq_cleared (job : Job) :
    (Client.inMemory answer options shares).conduct job (m, sent) =
      (Client.inMemory answer options shares).conduct job (m.cleared, []) :=
  -- Services that know only what is added are the same for the cleared services.
  (conduct_eq m sent answer options shares job).trans
    (conduct_eq m.cleared [] answer options shares job).symm

/-- **Runs share nothing but what they record.** What is seen of the runs of a session, their
outcomes, pauses, spans, requests and transactions, is what is seen of each of them alone with
services that have nothing recorded.  At the end of the session, the transactions and the requests
of all runs have been added to those before it, in the order of the runs, and nothing else has
changed. -/
theorem session_eq_alone (jobs : List Job) :
    let client := Client.inMemory answer options shares
    let alone := fun job => client.conduct job (m.cleared, [])
    client.session jobs (m, sent) =
      (jobs.map alone, m.recorded (jobs.flatMap fun job => (alone job).transactions),
        sent ++ jobs.flatMap fun job => (alone job).requests) := by
  intro client alone
  induction jobs generalizing m sent with
  | nil => simp [Client.session]
  | cons job jobs ih =>
    have hone : client.conduct job (m, sent) = alone job :=
      conduct_eq_cleared m sent answer options shares job
    have hworld : (client.execute job (m, sent)).world
        = (m.recorded (alone job).transactions, sent ++ (alone job).requests) := by
      rw [← hone]
      exact execute_world m sent answer options shares job
    -- What is alone before the run is alone behind it: clearing forgets what the run has recorded.
    have hrest := ih (m.recorded (alone job).transactions) (sent ++ (alone job).requests)
    rw [Client.session, hworld, hrest, hone, InMemory.recorded_recorded, List.append_assoc]
    rfl

end

end Workflow
