import Workflow.Proofs.Definition.OutputKeys
import Workflow.Proofs.Engine.Progression
import Workflow.Proofs.Engine.Visits

/-!
# What a step can see

In a run of a definition that passes its check, the context in front of a step holds exactly what
the steps before it have published: the outputs of those that succeeded, under their ids and
aliases, and a mark under the ids of those that were skipped (`Context.Shows`).  Every call of a
handler sees this context, and so does the output mapping at the end
(`outputs_visible_to_calls`).

The invariant in front of each step is `Noted`.  Its proof needs the check for one thing only: the
output keys of a step are free when the step is executed (`isRecorded_eq_false_of_shows`), because
no other step has them.
-/

namespace Workflow

variable {σ : Type} {attempt : Step → Context → Act σ Value} {options : Options}

/-- A context that shows what some steps have left behind, as the calls so far tell: every step has
ended without halting the run, and the context holds what they have published, in order, and
nothing else. -/
structure Context.Shows (c : Context) (visits : List Visit) (steps : List Step) : Prop where
  /-- Every step has ended with an output, or with a failure that is skipped. -/
  settled : ∀ step ∈ steps, ∃ outcome,
    outcomeOf? visits step = some outcome ∧ step.haltAfter outcome = none
  /-- The context holds what the steps have published. -/
  outputs_eq : c.outputs = publishedBy visits steps

namespace Context.Shows

variable {c : Context} {visits more : List Visit} {steps : List Step}

/-- Calls for other steps change nothing of what a context shows. -/
theorem append (h : c.Shows visits steps)
    (hmore : ∀ v ∈ more, ∀ step ∈ steps, v.step.id ≠ step.id) :
    c.Shows (visits ++ more) steps where
  settled step hstep := by
    rw [outcomeOf?_append_of_ne fun v hv => hmore v hv step hstep]
    exact h.settled step hstep
  outputs_eq := by rw [publishedBy_append_of_ne hmore, h.outputs_eq]

/-- Behind a further step a context also shows what that step has left behind. -/
theorem extended (h : c.Shows visits steps) {step : Step} {outcome : Except Failure Value}
    (hout : outcomeOf? visits step = some outcome) (hgo : step.haltAfter outcome = none) :
    (c.extended (step.published outcome)).Shows visits (steps ++ [step]) where
  settled s hs := by
    rcases List.mem_append.mp hs with hs | hs
    · exact h.settled s hs
    · rw [List.mem_singleton.mp hs]
      exact ⟨outcome, hout, hgo⟩
  outputs_eq := by
    rw [Context.extended_outputs, h.outputs_eq, publishedBy_append, publishedBy_singleton hout]

end Context.Shows

/-! ### Keys that are free -/

/-- The output keys of a step are free in a context that shows the steps in front of it. -/
theorem isRecorded_eq_false_of_shows {before after : List Step} {step : Step} {c : Context}
    {visits : List Visit} (hkeyed : Step.Keyed (before ++ step :: after))
    (h : c.Shows visits before) : ∀ later ∈ step :: after, ∀ key ∈ later.outputKeys,
      c.isRecorded key = false := by
  intro later hlater key hkey
  rw [Context.isRecorded_eq_false_iff, h.outputs_eq]
  rintro entry hentry rfl
  obtain ⟨earlier, hearlier, hmem⟩ := mem_outputKeys_of_publishedBy hentry
  exact (List.pairwise_append.mp hkeyed.disjoint).2.2 earlier hearlier later hlater _ hmem hkey

theorem id_ne_of_keyed {before after : List Step} {step : Step}
    (hkeyed : Step.Keyed (before ++ step :: after)) :
    ∀ earlier ∈ before, step.id ≠ earlier.id := by
  intro earlier hearlier heq
  have hnodup := hkeyed.ids_nodup
  rw [List.map_append, List.nodup_append] at hnodup
  exact hnodup.2.2 _ (List.mem_map_of_mem hearlier) _ (by simp) heq.symm

/-! ### Calls that see the past -/

/-- Every call is for one of the steps and sees what the steps in front of that one have left
behind, as the calls before it tell. -/
def SeePast (steps : List Step) (visits : List Visit) : Prop :=
  ∀ (i : Nat) (v : Visit), visits[i]? = some v → ∃ before after, steps = before ++ v.step :: after ∧
    v.context.Shows (visits.take i) before

theorem SeePast.append {before after : List Step} {step : Step} {c : Context}
    {visits calls : List Visit} (h : SeePast (before ++ step :: after) visits)
    (hshows : c.Shows visits before) (hne : ∀ earlier ∈ before, step.id ≠ earlier.id)
    (hcalls : ∀ v ∈ calls, v.step = step ∧ v.context = c) :
    SeePast (before ++ step :: after) (visits ++ calls) := by
  intro i v hv
  rcases Nat.lt_or_ge i visits.length with hi | hi
  · rw [List.getElem?_append_left hi] at hv
    rw [List.take_append_of_le_length (Nat.le_of_lt hi)]
    exact h i v hv
  · rw [List.getElem?_append_right hi] at hv
    obtain ⟨rfl, rfl⟩ := hcalls v (List.mem_of_getElem? hv)
    refine ⟨before, after, rfl, ?_⟩
    rw [List.take_append, List.take_of_length_le hi]
    refine hshows.append fun w hw earlier hearlier => ?_
    rw [(hcalls w (List.mem_of_mem_take hw)).1]
    exact hne earlier hearlier

/-! ### The invariant of a run -/

/-- What holds in front of a step when the calls of a run are noted. -/
structure Noted (steps before : List Step) (q : Progress (σ × List Visit)) : Prop where
  /-- The calls so far have seen the past. -/
  seePast : SeePast steps q.world.2
  /-- The context shows the steps so far. -/
  shows : q.context.Shows q.world.2 before

/-- A step leaves the world as its attempts do, and its calls come behind those noted before. -/
theorem world_runStep_noting (attempt : Step → Context → Act σ Value) (options : Options)
    (step : Step) (q : Progress (σ × List Visit)) :
    ∃ last, step.Attempted options (noting attempt step q.context) q.world
        (step.attempt options (noting attempt step q.context) q.world) last ∧
      (runStep (noting attempt) options step q).1.world
        = (Act.worldAfter (attempt step q.context) (last + 1) q.world.1,
          q.world.2 ++ firstCalls attempt step q.context q.world.1 (last + 1)) := by
  obtain ⟨last, h⟩ :=
    step.attempt_attempted options (noting attempt step q.context) q.world
  refine ⟨last, h, ?_⟩
  rw [runStep_world, h.world_eq]
  exact worldAfter_noting attempt step q.context (last + 1) q.world.1 q.world.2

theorem visits_runStep_noting (attempt : Step → Context → Act σ Value) (options : Options)
    (step : Step) (q : Progress (σ × List Visit)) :
    ∃ last, step.Attempted options (noting attempt step q.context) q.world
        (step.attempt options (noting attempt step q.context) q.world) last ∧
      (runStep (noting attempt) options step q).1.world.2
        = q.world.2 ++ firstCalls attempt step q.context q.world.1 (last + 1) := by
  obtain ⟨last, h, hworld⟩ := world_runStep_noting attempt options step q
  exact ⟨last, h, congrArg Prod.snd hworld⟩

theorem Noted.seePast_runStep {before after : List Step} {step : Step}
    {q : Progress (σ × List Visit)} (h : Noted (before ++ step :: after) before q)
    (hkeyed : Step.Keyed (before ++ step :: after)) (attempt : Step → Context → Act σ Value)
    (options : Options) :
    SeePast (before ++ step :: after) (runStep (noting attempt) options step q).1.world.2 := by
  obtain ⟨last, -, hvisits⟩ := visits_runStep_noting attempt options step q
  rw [hvisits]
  exact h.seePast.append h.shows (id_ne_of_keyed hkeyed) fun v hv => mem_firstCalls hv

/-- The calls for a step leave alone what the context shows about the steps in front of it. -/
theorem Noted.shows_runStep {before after : List Step} {step : Step}
    {q : Progress (σ × List Visit)} (h : Noted (before ++ step :: after) before q)
    (hkeyed : Step.Keyed (before ++ step :: after)) (attempt : Step → Context → Act σ Value)
    (options : Options) :
    q.context.Shows (runStep (noting attempt) options step q).1.world.2 before := by
  obtain ⟨last, -, hvisits⟩ := visits_runStep_noting attempt options step q
  rw [hvisits]
  refine h.shows.append fun v hv earlier hearlier => ?_
  rw [(mem_firstCalls hv).1]
  exact id_ne_of_keyed hkeyed earlier hearlier

theorem Noted.next {before after : List Step} {step : Step}
    {q q' : Progress (σ × List Visit)} (h : Noted (before ++ step :: after) before q)
    (hkeyed : Step.Keyed (before ++ step :: after))
    (hrun : runStep (noting attempt) options step q = (q', none)) :
    Noted (before ++ step :: after) (before ++ [step]) q' := by
  have hseePast := h.seePast_runStep hkeyed attempt options
  have hshows := h.shows_runStep hkeyed attempt options
  obtain ⟨last, hattempted, hvisits⟩ := visits_runStep_noting attempt options step q
  have hfree := isRecorded_eq_false_of_shows hkeyed h.shows step (List.mem_cons_self ..)
  rw [hrun] at hseePast hshows hvisits
  refine ⟨hseePast, ?_⟩
  cases hout : (step.attempt options (noting attempt step q.context) q.world).outcome.worded with
  | broken f =>
    rw [runStep_of_broken rfl hout] at hrun
    cases hrun
  | ended outcome =>
    -- The step has ended without halting the run, so the context shows it from now on.
    rw [runStep_of_ended rfl hout hfree] at hrun
    obtain ⟨hq', hgo⟩ := Prod.mk.inj hrun
    have hcontext : q'.context = _ := (congrArg Progress.context hq').symm
    rw [hcontext]
    refine hshows.extended ?_ hgo
    rw [hvisits, outcomeOf?_append_firstCalls, hattempted.eq_outcomeAt hout, outcomeAt_noting]

/-! ### Whole runs -/

/-- A run starts with nothing recorded. -/
theorem outputs_of_start {params : RunParams} {options : Options} {now : Value} {c : Context}
    (h : Context.start params options now = .ok c) : c.outputs = [] := by
  unfold Context.start at h
  simp only [bind, Except.bind, pure, Except.pure] at h
  repeat' split at h
  all_goals cases h
  rfl

theorem visits_eq (d : Definition) (attempt : Step → Context → Act σ Value) {options : Options}
    {now : Value} {params : RunParams} (s : σ) {c : Context}
    (hc : Context.start params options now = .ok c) :
    d.visits attempt options now params s
      = (runSteps (noting attempt) options d.steps
          { context := c, world := (s, []) }).1.world.2 := by
  rw [Definition.visits, Definition.run, hc]

/-- No handler is called in a run whose context cannot be formed. -/
theorem visits_eq_nil (d : Definition) (attempt : Step → Context → Act σ Value)
    {options : Options} {now : Value} {params : RunParams} (s : σ) {e : Failure}
    (hc : Context.start params options now = .error e) :
    d.visits attempt options now params s = [] := by
  rw [Definition.visits, Definition.run, hc]

theorem noted_start {params : RunParams} {options : Options} {now : Value} {c : Context}
    (hc : Context.start params options now = .ok c) (steps : List Step) (s : σ) :
    Noted steps [] { context := c, world := (s, []) } where
  seePast i v hv := by simp at hv
  shows := ⟨by simp, by simp [outputs_of_start hc, publishedBy]⟩

/-- The steps of a noted run up to the one that halts it, or to the end. -/
theorem noted_runSteps {steps : List Step} (hkeyed : Step.Keyed steps)
    {q p : Progress (σ × List Visit)} {h : Option Halt} (hq : Noted steps [] q)
    (hrun : runSteps (noting attempt) options steps q = (p, h)) :
    SeePast steps p.world.2 ∧ (h = none → p.context.Shows p.world.2 steps) := by
  have hstep : ∀ before step after q q', steps = before ++ step :: after →
      Noted steps before q → runStep (noting attempt) options step q = (q', none) →
      Noted steps (before ++ [step]) q' := by
    rintro before step after q q' rfl hnoted hone
    exact hnoted.next hkeyed hone
  rcases runSteps_invariant hq hstep hrun with
    ⟨-, hnoted⟩ | ⟨before, step, after, q', halt, rfl, hnoted, hone, rfl⟩
  · exact ⟨hnoted.seePast, fun _ => hnoted.shows⟩
  · have hseePast := hnoted.seePast_runStep hkeyed attempt options
    rw [hone] at hseePast
    exact ⟨hseePast, fun hnone => by cases hnone⟩

/-- **Visibility.** In every run of a definition that passes its check, each call of a handler sees
exactly what the steps in front of its own have published; the output keys of its own step and of
all later ones are free, so that every output could be recorded.  The output mapping is resolved in
a context that shows all steps. -/
theorem outputs_visible_to_calls {d : Definition} {version : Value}
    (hvalid : (d.check version).valid = true) (attempt : Step → Context → Act σ Value)
    (options : Options) (now : Value) (params : RunParams) (s : σ) :
    (∀ (i : Nat) (v : Visit), (d.visits attempt options now params s)[i]? = some v →
      ∃ before after, d.steps = before ++ v.step :: after ∧
        v.context.Shows ((d.visits attempt options now params s).take i) before ∧
        (∀ later ∈ v.step :: after, ∀ key ∈ later.outputKeys,
          v.context.isRecorded key = false) ∧
        ∀ output, (v.context.register v.step.toStepHeader output).2 = none) ∧
    ∀ c p, Context.start params options now = .ok c →
      runSteps attempt options d.steps { context := c, world := s } = (p, none) →
      (d.run attempt options now params s).outcome
          = finishRun d.outputMapping p.context p.results ∧
        p.context.Shows (d.visits attempt options now params s) d.steps := by
  have hkeyed := keyed_of_check hvalid
  constructor
  · have hseePast : SeePast d.steps (d.visits attempt options now params s) := by
      cases hc : Context.start params options now with
      | error e =>
        rw [visits_eq_nil d attempt s hc]
        exact fun i v hv => by simp at hv
      | ok c =>
        rw [visits_eq d attempt s hc]
        exact (noted_runSteps hkeyed (noted_start hc d.steps s) rfl).1
    intro i v hv
    obtain ⟨before, after, hsteps, hshows⟩ := hseePast i v hv
    have hfree := isRecorded_eq_false_of_shows (hsteps ▸ hkeyed) hshows
    refine ⟨before, after, hsteps, hshows, hfree, fun output => ?_⟩
    rw [Context.register_of_free v.step output (hfree v.step (List.mem_cons_self ..))]
  · intro c p hc hrun
    refine ⟨by rw [Definition.run, hc]; simp only [hrun]; rfl, ?_⟩
    -- The context at the end is that of the run whose calls are noted.
    have hview := runSteps_under (noting_refines attempt) options d.steps
      { context := c, world := (s, []) }
    simp only [Progress.under] at hview
    rw [hrun] at hview
    obtain ⟨hp, hnone⟩ := Prod.mk.inj hview
    rw [hp, visits_eq d attempt s hc]
    exact (noted_runSteps hkeyed (noted_start hc d.steps s) rfl).2 hnone.symm

/-! ### A run with a skipped step -/

/-- A price that may be missing, and a notice that is tried again. -/
def priceNotice : Definition :=
  { version := "1.0"
    steps :=
      [⟨{ id := "price", outputAs := "quote", onError := .skip },
          .transform (some (.text "$.input.price"))⟩,
        ⟨{ id := "notice", outputAs := "sent", onError := .retry },
          .transform (some (.text "$.steps.price"))⟩] }

/-- Handlers that fail twice, first for good and then in a way that may pass. -/
def thirdTime : Step → Context → Act Nat Value := fun _ _ n =>
  match n with
  | 0 => (.error (.misconfigured .noEndpoint), 1)
  | 1 => (.error (.fault .notTexts), 2)
  | n => (.ok (.int 7), n + 1)

/-- The price is skipped, so that its alias is not there. -/
theorem outputs_visible_to_calls_priceNotice :
    (priceNotice.check (.text "1.0")).valid = true ∧
      ∃ c p, Context.start ⟨.null, .null, .null, .null, .null⟩ {} (.int 1000) = .ok c ∧
        runSteps thirdTime {} priceNotice.steps { context := c, world := 0 } = (p, none) ∧
        p.context.outputs = [("price", .null), ("notice", Context.outputEntry (.int 7)),
          ("sent", Context.outputEntry (.int 7))] := by
  have hvalid : (priceNotice.check (.text "1.0")).valid = true := by decide
  have hend := (outputs_visible_to_calls hvalid thirdTime {} (.int 1000)
    ⟨.null, .null, .null, .null, .null⟩ 0).2
  refine ⟨hvalid, _, _, rfl, rfl, ?_⟩
  rw [(hend _ _ rfl rfl).2.outputs_eq]
  rfl

end Workflow
