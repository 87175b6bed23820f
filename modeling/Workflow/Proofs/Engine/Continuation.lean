import Workflow.Proofs.Engine.Entries
import Workflow.Proofs.Outcomes
import Workflow.Proofs.Service.Traffic

/-!
# Runs with further steps

`Definition.followedBy` puts further steps behind those of a definition.  The longer run starts with
all that the shorter one does: steps only add to pauses, spans, context entries and to whatever
record their handlers keep (`runSteps_extends`).  The results are kept by step id, so that they are
only added to, too, unless a further step has the id of an earlier one (`runSteps_results`,
`Fields.prefix_putAll`); `repeated_id_overwrites` shows that then the earlier result is lost.

A step that fails and halts the shorter run halts the longer one alike.  Otherwise the further steps
are executed from where the shorter run has come (`course_followedBy`).  `later_steps_only_add` puts
this together.
-/

namespace Workflow

variable {σ β : Type} {attempt : Step → Context → Act σ Value} {options : Options}

/-! ### What a step adds -/

/-- A state of a run that an earlier one may lead to: all that was there has been added to. -/
structure Progress.Extends (notes : σ → List β) (p q : Progress σ) : Prop where
  /-- The context has further entries. -/
  context : ∃ entries, q.context = p.context.extended entries
  /-- There are further pauses. -/
  pauses : p.pauses <+: q.pauses
  /-- There are further spans. -/
  spans : p.spans <+: q.spans
  /-- The record that is kept in the outside world has further notes. -/
  notes : notes p.world <+: notes q.world

namespace Progress.Extends

variable {notes : σ → List β} {p q r : Progress σ}

theorem refl (p : Progress σ) : p.Extends notes p :=
  ⟨⟨[], by simp⟩, List.prefix_rfl, List.prefix_rfl, List.prefix_rfl⟩

theorem trans (hpq : p.Extends notes q) (hqr : q.Extends notes r) : p.Extends notes r where
  context := by
    obtain ⟨entries, hentries⟩ := hpq.context
    obtain ⟨more, hmore⟩ := hqr.context
    exact ⟨entries ++ more, by rw [hmore, hentries, Context.extended_extended]⟩
  pauses := hpq.pauses.trans hqr.pauses
  spans := hpq.spans.trans hqr.spans
  notes := hpq.notes.trans hqr.notes

end Progress.Extends

/-- Attempts at a step add to what is noted if each call does. -/
theorem Step.notes_prefix_attempt {notes : σ → List β} {act : Act σ Value}
    (h : ∀ s, notes s <+: notes (act s).2) (step : Step) (options : Options) (s : σ) :
    notes s <+: notes (step.attempt options act s).world := by
  obtain ⟨last, hgo⟩ := step.attempt_attempted options act s
  rw [hgo.world_eq]
  exact Act.worldAfter_invariant (P := fun t => notes s <+: notes t) (fun t ht => ht.trans (h t))
    (last + 1) List.prefix_rfl

variable {notes : σ → List β} (h : ∀ step c s, notes s <+: notes (attempt step c s).2)
include h

theorem runStep_extends (step : Step) (p : Progress σ) :
    p.Extends notes (runStep attempt options step p).1 := by
  have hnotes := step.notes_prefix_attempt (h step p.context) options p.world
  cases hout : (step.attempt options (attempt step p.context) p.world).outcome.worded with
  | broken f =>
    rw [runStep_of_broken rfl hout]
    exact ⟨⟨[], by simp⟩, List.prefix_append _ _, List.prefix_append _ _, hnotes⟩
  | ended outcome =>
    rw [runStep_of_settled rfl hout]
    exact ⟨⟨step.left p.context outcome, rfl⟩, List.prefix_append _ _, List.prefix_append _ _,
      hnotes⟩

/-- Steps only add to what was there before them. -/
theorem runSteps_extends (steps : List Step) (p : Progress σ) :
    p.Extends notes (runSteps attempt options steps p).1 := by
  induction steps generalizing p with
  | nil => exact .refl p
  | cons step steps ih =>
    have hone : p.Extends notes (runStep attempt options step p).1 := runStep_extends h step p
    rw [runSteps]
    rcases hrun : runStep attempt options step p with ⟨p', _ | halt⟩
    · rw [hrun] at hone
      exact hone.trans (ih p')
    · rw [hrun] at hone
      exact hone

omit h

/-! ### What becomes of the results -/

theorem runStep_results (step : Step) (p : Progress σ) :
    ∃ more, (runStep attempt options step p).1.results = Fields.putAll p.results more ∧
      ∀ entry ∈ more, entry.1 = step.id := by
  cases hout : (step.attempt options (attempt step p.context) p.world).outcome.worded with
  | broken f =>
    rw [runStep_of_broken rfl hout]
    exact ⟨[], rfl, by simp⟩
  | ended outcome =>
    rw [runStep_of_settled rfl hout]
    exact ⟨[(step.id, _)], rfl, by simp⟩

/-- Steps write their results under their ids. -/
theorem runSteps_results (steps : List Step) (p : Progress σ) :
    ∃ more, (runSteps attempt options steps p).1.results = Fields.putAll p.results more ∧
      ∀ entry ∈ more, ∃ step ∈ steps, entry.1 = step.id := by
  induction steps generalizing p with
  | nil => exact ⟨[], rfl, by simp⟩
  | cons step steps ih =>
    have hone : ∃ more, (runStep attempt options step p).1.results = Fields.putAll p.results more ∧
        ∀ entry ∈ more, entry.1 = step.id := runStep_results step p
    obtain ⟨first, hfirst, hids⟩ := hone
    have hids' : ∀ entry ∈ first, ∃ s ∈ step :: steps, entry.1 = s.id :=
      fun entry hentry => ⟨step, List.mem_cons_self .., hids entry hentry⟩
    rw [runSteps]
    rcases hrun : runStep attempt options step p with ⟨p', _ | halt⟩
    · rw [hrun] at hfirst
      obtain ⟨more, hmore, hsteps⟩ := ih p'
      refine ⟨first ++ more, ?_, fun entry hentry => ?_⟩
      · rw [Fields.putAll_append, ← hfirst]
        exact hmore
      · rcases List.mem_append.mp hentry with hin | hin
        · exact hids' entry hin
        · obtain ⟨s, hs, heq⟩ := hsteps entry hin
          exact ⟨s, List.mem_cons_of_mem step hs, heq⟩
    · rw [hrun] at hfirst
      exact ⟨first, hfirst, hids'⟩

/-! ### How far the steps of a run come -/

/-- How far the steps of a run come, and why they end before the last one if they do. -/
def Definition.course (d : Definition) (attempt : Step → Context → Act σ Value)
    (options : Options) (now : Value) (params : RunParams) (s : σ) :
    Except Failure (Progress σ × Option Halt) :=
  (Context.start params options now).map fun c =>
    runSteps attempt options d.steps { context := c, world := s }

/-- What the steps of a run write into the context, in order. -/
def Definition.written (d : Definition) (attempt : Step → Context → Act σ Value)
    (options : Options) (now : Value) (params : RunParams) (s : σ) : List (String × Value) :=
  match d.course attempt options now params s with
  | .ok (p, _) => p.context.outputs
  | .error _ => []

/-- A definition with further steps behind its own. -/
def Definition.followedBy (d : Definition) (more : List Step) : Definition :=
  { d with steps := d.steps ++ more }

section Course

variable {d : Definition} {now : Value} {params : RunParams} {s : σ}

/-- A run is concluded from where its steps have come. -/
theorem run_eq_of_course {p : Progress σ} {halt : Option Halt}
    (h : d.course attempt options now params s = .ok (p, halt)) :
    d.run attempt options now params s
      = ⟨concludeRun d.outputMapping p.context p.results halt, p.pauses, p.spans, p.world⟩ := by
  rw [Definition.course] at h
  obtain ⟨c, hc, hsteps⟩ := Outcome.map_eq_ok_iff.mp h
  rw [Definition.run, hc]
  simp only [hsteps]

theorem run_eq_of_course_error {e : Failure}
    (h : d.course attempt options now params s = .error e) :
    d.run attempt options now params s = ⟨.error e, [], [], s⟩ := by
  rw [Definition.course, Outcome.map_eq_error_iff] at h
  rw [Definition.run, h]

/-- Further steps are executed from where the steps in front of them have come, unless these have
halted the run. -/
theorem course_followedBy (d : Definition) (attempt : Step → Context → Act σ Value)
    (options : Options) (now : Value) (params : RunParams) (s : σ) (more : List Step) :
    (d.followedBy more).course attempt options now params s
      = (d.course attempt options now params s).map fun
        | (p, none) => runSteps attempt options more p
        | (p, some halt) => (p, some halt) := by
  rw [Definition.course, Definition.course]
  cases Context.start params options now with
  | error e => rfl
  | ok c =>
    rcases hsteps : runSteps attempt options d.steps { context := c, world := s } with
      ⟨p, _ | halt⟩
    · simp only [Except.map, Definition.followedBy, runSteps_append, hsteps]
    · simp only [Except.map, Definition.followedBy, runSteps_append, hsteps]

/-- A run that its steps have halted is the same with further steps. -/
theorem run_followedBy_of_halt {p : Progress σ} {halt : Halt}
    (h : d.course attempt options now params s = .ok (p, some halt)) (more : List Step) :
    (d.followedBy more).run attempt options now params s = d.run attempt options now params s := by
  have hlonger : (d.followedBy more).course attempt options now params s
      = .ok (p, some halt) := by
    rw [course_followedBy, h]
    rfl
  rw [run_eq_of_course h, run_eq_of_course hlonger]
  cases halt <;> rfl

/-- The course of a run is the same under a view of the outside world. -/
theorem course_under {τ : Type} {view : τ → σ} {fine : Step → Context → Act τ Value}
    (h : ∀ step c, Act.Refines view (fine step c) (attempt step c)) (t : τ) :
    d.course attempt options now params (view t)
      = (d.course fine options now params t).map fun (p, halt) => (p.under view, halt) := by
  rw [Definition.course, Definition.course]
  cases Context.start params options now with
  | error e => rfl
  | ok c =>
    have hsteps := runSteps_under h options d.steps { context := c, world := t }
    simp only [Progress.under] at hsteps
    simp only [Except.map, hsteps]
    rfl

/-- A run that a step has halted is also halted where a record is kept beside the world. -/
theorem exists_course_of_under {τ : Type} {view : τ → σ} {fine : Step → Context → Act τ Value}
    (hview : ∀ step c, Act.Refines view (fine step c) (attempt step c)) {t : τ}
    {p : Progress σ} {halt : Option Halt}
    (h : d.course attempt options now params (view t) = .ok (p, halt)) :
    ∃ q, d.course fine options now params t = .ok (q, halt) := by
  rw [course_under hview, Outcome.map_eq_ok_iff] at h
  obtain ⟨⟨q, halt'⟩, hq, heq⟩ := h
  obtain ⟨-, rfl⟩ := Prod.mk.inj heq
  exact ⟨q, hq⟩

/-- The run with further steps comes by where the steps of the run without them have come. -/
theorem extends_followedBy (notes : σ → List β)
    (h : ∀ step c s, notes s <+: notes (attempt step c s).2) {p : Progress σ} {halt : Option Halt}
    (hcourse : d.course attempt options now params s = .ok (p, halt)) (more : List Step) :
    ∃ q halt', (d.followedBy more).course attempt options now params s = .ok (q, halt') ∧
      p.Extends notes q ∧ ∃ entries, q.results = Fields.putAll p.results entries ∧
        ∀ entry ∈ entries, ∃ step ∈ more, entry.1 = step.id := by
  rw [course_followedBy, hcourse]
  cases halt with
  | some halt => exact ⟨p, some halt, rfl, .refl p, [], rfl, by simp⟩
  | none => exact ⟨_, _, rfl, runSteps_extends h more p, runSteps_results more p⟩

/-- A run that cannot start cannot start with further steps either. -/
theorem course_followedBy_error {e : Failure}
    (h : d.course attempt options now params s = .error e) (more : List Step) :
    (d.followedBy more).course attempt options now params s = .error e := by
  rw [course_followedBy, h]
  rfl

/-- What is noted in a run is also noted, and first, in the run with further steps. -/
theorem notes_prefix_followedBy {notes : σ → List β}
    (h : ∀ step c s, notes s <+: notes (attempt step c s).2) (more : List Step) :
    notes (d.run attempt options now params s).world
      <+: notes ((d.followedBy more).run attempt options now params s).world := by
  cases hcourse : d.course attempt options now params s with
  | error e =>
    have hshort := run_eq_of_course_error hcourse
    have hlong := run_eq_of_course_error (course_followedBy_error hcourse more)
    exact ⟨[], by rw [List.append_nil, hshort, hlong]⟩
  | ok course =>
    obtain ⟨p, halt⟩ := course
    obtain ⟨q, halt', hq, hext, -⟩ := extends_followedBy notes h hcourse more
    rw [run_eq_of_course hcourse, run_eq_of_course hq]
    exact hext.notes

/-- The pauses, spans and context entries of a run are those at the start of the run with further
steps. -/
theorem lists_prefix_followedBy (d : Definition) (attempt : Step → Context → Act σ Value)
    (options : Options) (now : Value) (params : RunParams) (s : σ) (more : List Step) :
    (d.run attempt options now params s).pauses
        <+: ((d.followedBy more).run attempt options now params s).pauses ∧
      (d.run attempt options now params s).spans
        <+: ((d.followedBy more).run attempt options now params s).spans ∧
      d.written attempt options now params s
        <+: (d.followedBy more).written attempt options now params s := by
  cases hcourse : d.course attempt options now params s with
  | error e =>
    have hlonger := course_followedBy_error hcourse more
    rw [run_eq_of_course_error hcourse, run_eq_of_course_error hlonger, Definition.written,
      Definition.written, hcourse, hlonger]
    exact ⟨List.prefix_rfl, List.prefix_rfl, List.prefix_rfl⟩
  | ok course =>
    obtain ⟨p, halt⟩ := course
    -- These lists are kept whatever the handlers record, so also if they record nothing.
    obtain ⟨q, halt', hq, hext, -⟩ :=
      extends_followedBy (fun _ => ([] : List Unit)) (fun _ _ _ => List.prefix_rfl) hcourse more
    obtain ⟨entries, hentries⟩ := hext.context
    rw [run_eq_of_course hcourse, run_eq_of_course hq, Definition.written, Definition.written,
      hcourse, hq]
    refine ⟨hext.pauses, hext.spans, ?_⟩
    show p.context.outputs <+: q.context.outputs
    rw [hentries, Context.extended_outputs]
    exact List.prefix_append _ _

/-- Further steps write their results over those of a run under their own ids. -/
theorem exists_stepResults_followedBy {more : List Step} {r r' : Result}
    (hr : (d.run attempt options now params s).outcome = .ok r)
    (hr' : ((d.followedBy more).run attempt options now params s).outcome = .ok r') :
    ∃ entries, r'.stepResults = Fields.putAll r.stepResults entries ∧
      ∀ entry ∈ entries, ∃ step ∈ more, entry.1 = step.id := by
  cases hcourse : d.course attempt options now params s with
  | error e =>
    rw [run_eq_of_course_error hcourse] at hr
    cases hr
  | ok course =>
    obtain ⟨p, halt⟩ := course
    obtain ⟨q, halt', hq, -, hresults⟩ :=
      extends_followedBy (fun _ => ([] : List Unit)) (fun _ _ _ => List.prefix_rfl) hcourse more
    rw [run_eq_of_course hcourse] at hr
    rw [run_eq_of_course hq] at hr'
    rw [stepResults_of_concludeRun hr, stepResults_of_concludeRun hr']
    exact hresults

end Course

/-! ### The theorem -/

/-- What a run with further steps has in common with the run without them. -/
structure Definition.GoesOn (d : Definition) (more : List Step)
    (attempt : Step → Context → Act σ Value) (options : Options) (now : Value)
    (params : RunParams) (s : σ) : Prop where
  /-- It starts with the same calls of handlers, in the same contexts and with the same outcomes. -/
  visits : d.visits attempt options now params s
    <+: (d.followedBy more).visits attempt options now params s
  /-- It starts with the same pauses. -/
  pauses : (d.run attempt options now params s).pauses
    <+: ((d.followedBy more).run attempt options now params s).pauses
  /-- It starts with the same spans. -/
  spans : (d.run attempt options now params s).spans
    <+: ((d.followedBy more).run attempt options now params s).spans
  /-- It starts with the same entries in the context. -/
  written : d.written attempt options now params s
    <+: (d.followedBy more).written attempt options now params s
  /-- It has the same results, with those of further steps written over them by step id. -/
  results : ∀ r r', (d.run attempt options now params s).outcome = .ok r →
    ((d.followedBy more).run attempt options now params s).outcome = .ok r' →
    ∃ entries, r'.stepResults = Fields.putAll r.stepResults entries ∧
      ∀ entry ∈ entries, ∃ step ∈ more, entry.1 = step.id
  /-- Its results start with the same ones if the ids of further steps are not among theirs. -/
  results_of_new : ∀ r r', (d.run attempt options now params s).outcome = .ok r →
    ((d.followedBy more).run attempt options now params s).outcome = .ok r' →
    (∀ step ∈ more, step.id ∉ Fields.names r.stepResults) → r.stepResults <+: r'.stepResults
  /-- If a step has failed and halted the run, nothing is added. -/
  halted : ∀ p label text,
    d.course attempt options now params s = .ok (p, some (.failed label text)) →
    (d.followedBy more).run attempt options now params s = d.run attempt options now params s ∧
    (d.followedBy more).visits attempt options now params s
      = d.visits attempt options now params s
  /-- Otherwise the further steps are executed from where the run has come. -/
  executed : ∀ p, d.course attempt options now params s = .ok (p, none) →
    (d.followedBy more).course attempt options now params s
      = .ok (runSteps attempt options more p)

/-- **Later steps only add.** The run of a definition with further steps starts with all that the
run without them does, HTTP requests and transactions included.  If a step has failed and halted the
shorter run, the longer run is the same run and nothing else goes out.  Otherwise the further steps
are executed from where the shorter run has come. -/
theorem later_steps_only_add (d : Definition) (more : List Step) (options : Options) (now : Value)
    (params : RunParams) (s : σ) :
    (∀ attempt : Step → Context → Act σ Value, d.GoesOn more attempt options now params s) ∧
    ∀ (services : Services σ) (channel : Http.Channel),
      d.traffic services channel options now params s
          <+: (d.followedBy more).traffic services channel options now params s ∧
      ∀ p label text,
        d.course (fun step c => step.perform services channel c) options now params s
          = .ok (p, some (.failed label text)) →
        (d.followedBy more).traffic services channel options now params s
          = d.traffic services channel options now params s := by
  constructor
  · intro attempt
    -- What an act notes comes behind all notes before, and so do the notes of further steps.
    have hnoting : ∀ step c (t : σ × List Visit), t.2 <+: (noting attempt step c t).2.2 :=
      fun step c t => List.prefix_append _ _
    obtain ⟨hpauses, hspans, hwritten⟩ :=
      lists_prefix_followedBy d attempt options now params s more
    refine ⟨notes_prefix_followedBy hnoting more, hpauses, hspans, hwritten,
      fun r r' => exists_stepResults_followedBy, fun r r' hr hr' hnew => ?_,
      fun p label text hcourse => ⟨run_followedBy_of_halt hcourse more, ?_⟩,
      fun p hcourse => ?_⟩
    · obtain ⟨entries, hentries, hids⟩ := exists_stepResults_followedBy hr hr'
      rw [hentries]
      apply Fields.prefix_putAll
      intro entry hentry
      obtain ⟨step, hstep, hid⟩ := hids entry hentry
      rw [hid]
      exact hnew step hstep
    · obtain ⟨q, hq⟩ := exists_course_of_under (noting_refines attempt) (t := (s, [])) hcourse
      rw [Definition.visits, Definition.visits, run_followedBy_of_halt hq more]
    · rw [course_followedBy, hcourse]
      rfl
  · intro services channel
    refine ⟨notes_prefix_followedBy (traffic_prefix_tapping services channel) more,
      fun p label text hcourse => ?_⟩
    obtain ⟨q, hq⟩ :=
      exists_course_of_under (tapping_refines services channel) (t := (s, [])) hcourse
    rw [Definition.traffic, Definition.traffic, run_followedBy_of_halt hq more]

/-- A request for a quote. -/
def quoteOnly : Definition :=
  { version := "1.0"
    steps := [⟨{ id := "quote" }, .http (some { url := some "http://quotes" })⟩] }

/-- Services that do not answer and count how often they were asked. -/
def refusing : Services Nat where
  findProxy _ := Act.done (.ok none)
  revealHeaders _ := Act.done (.ok [])
  send _ n := (.error (.fault .notTexts), n + 1)
  submit _ n := (.error (.fault .notTexts), n + 1)

/-- Behind a price and a notice a further step is executed; behind a quote that fails it is not, and
nothing but the request for the quote goes out. -/
theorem later_steps_only_add_priceNotice :
    (∃ p, priceNotice.course thirdTime {} (.int 1000) ⟨.null, .null, .null, .null, .null⟩ 0
        = .ok (p, none) ∧
      (priceNotice.followedBy quoteOnly.steps).course thirdTime {} (.int 1000)
          ⟨.null, .null, .null, .null, .null⟩ 0
        = .ok (runSteps thirdTime {} quoteOnly.steps p)) ∧
    ∃ p label text,
      quoteOnly.course (fun step c => step.perform refusing .shared c) {} (.int 1000)
          ⟨.null, .null, .null, .null, .null⟩ 0 = .ok (p, some (.failed label text)) ∧
      (quoteOnly.followedBy priceNotice.steps).traffic refusing .shared {} (.int 1000)
          ⟨.null, .null, .null, .null, .null⟩ 0
        = quoteOnly.traffic refusing .shared {} (.int 1000)
          ⟨.null, .null, .null, .null, .null⟩ 0 ∧
      (quoteOnly.traffic refusing .shared {} (.int 1000)
        ⟨.null, .null, .null, .null, .null⟩ 0).length = 1 := by
  obtain ⟨hgoes, -⟩ := later_steps_only_add priceNotice quoteOnly.steps {} (.int 1000)
    ⟨.null, .null, .null, .null, .null⟩ 0
  obtain ⟨-, htraffic⟩ := later_steps_only_add quoteOnly priceNotice.steps {} (.int 1000)
    ⟨.null, .null, .null, .null, .null⟩ 0
  refine ⟨⟨_, rfl, (hgoes thirdTime).executed _ rfl⟩, ?_⟩
  obtain ⟨-, hhalted⟩ := htraffic refusing .shared
  exact ⟨_, _, _, rfl, hhalted _ _ _ rfl, rfl⟩

/-- A step that succeeds. -/
def noticeOnly : Definition :=
  { version := "1.0", steps := [⟨{ id := "notice" }, .transform (some .null)⟩] }

/-- With a further step of the same id the result of the earlier step is lost: its output cannot be
recorded once more, and that failure takes the place of the success. -/
theorem repeated_id_overwrites : ∃ r r',
    (noticeOnly.run (fun _ _ => Act.done (.ok .null)) {} (.int 1000)
      ⟨.null, .null, .null, .null, .null⟩ ()).outcome = .ok r ∧
    ((noticeOnly.followedBy noticeOnly.steps).run (fun _ _ => Act.done (.ok .null)) {} (.int 1000)
      ⟨.null, .null, .null, .null, .null⟩ ()).outcome = .ok r' ∧
    r.stepResults.map (fun entry => (entry.1, entry.2.success)) = [("notice", true)] ∧
    r'.stepResults.map (fun entry => (entry.1, entry.2.success)) = [("notice", false)] ∧
    ¬ r.stepResults <+: r'.stepResults := by
  refine ⟨_, _, rfl, rfl, rfl, rfl, fun hprefix => ?_⟩
  have hsame := hprefix.eq_of_length rfl
  have hflags := congrArg (List.map fun entry => entry.2.success) hsame
  exact absurd hflags (by decide)

end Workflow
