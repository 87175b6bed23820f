import Workflow.Engine
import Workflow.Proofs.Failures
import Mathlib.Data.List.Basic

/-!
# Attempts at a step

An act that is repeated meets the worlds `Act.worldAfter` and ends as `Act.outcomeAt` says, whatever
the number of repetitions.  `Step.attempt` chooses that number, and `Step.attempt_attempted` says
which one: a further attempt follows exactly while `Step.TriesAgain` holds, that is while the
outcome is a failure that may pass, the step has attempts left and the pause can be reckoned.

An act that notes how it ends (`Act.noted`) leaves one note for each repetition.

A failure without a text cannot be reported, so a step that ends with one breaks its run off just
like attempts that cannot be counted (`StepOutcome.worded`).
-/

namespace Workflow

variable {σ α β : Type}

/-! ### Repeated acts -/

/-- The outside world after an act has been repeated. -/
def Act.worldAfter (act : Act σ α) : Nat → σ → σ
  | 0, s => s
  | n + 1, s => Act.worldAfter act n (act s).2

/-- The outcome of an act that has been repeated; the first one has the number zero. -/
def Act.outcomeAt (act : Act σ α) (n : Nat) (s : σ) : Except Failure α :=
  (act (Act.worldAfter act n s)).1

theorem Act.worldAfter_succ (act : Act σ α) (n : Nat) (s : σ) :
    Act.worldAfter act (n + 1) s = (act (Act.worldAfter act n s)).2 := by
  induction n generalizing s with
  | zero => rfl
  | succ n ih => exact ih (act s).2

/-- What an act keeps is kept by its repetitions. -/
theorem Act.worldAfter_invariant {act : Act σ α} {P : σ → Prop} (h : ∀ s, P s → P (act s).2)
    (n : Nat) {s : σ} (hs : P s) : P (Act.worldAfter act n s) := by
  induction n generalizing s with
  | zero => exact hs
  | succ n ih => exact ih (h s hs)

@[simp] theorem Act.worldAfter_done (outcome : Except Failure α) (n : Nat) (s : σ) :
    Act.worldAfter (Act.done outcome) n s = s := by
  induction n with
  | zero => rfl
  | succ n ih => exact ih

/-! ### Noted acts -/

/-- An act beside notes that it leaves as they are. -/
def Act.beside (act : Act σ α) : Act (σ × List β) α := fun (s, notes) =>
  let (outcome, s') := act s
  (outcome, s', notes)

/-- An act that also notes how it ends, behind what was noted before. -/
def Act.noted (note : Except Failure α → β) (act : Act σ α) : Act (σ × List β) α :=
  fun (s, notes) =>
    let (outcome, s') := act s
    (outcome, s', notes ++ [note outcome])

theorem Act.worldAfter_noted (note : Except Failure α → β) (act : Act σ α) (n : Nat) (s : σ)
    (notes : List β) :
    Act.worldAfter (act.noted note) n (s, notes) = (Act.worldAfter act n s,
      notes ++ (List.range n).map fun i => note (Act.outcomeAt act i s)) := by
  induction n with
  | zero => simp [Act.worldAfter]
  | succ n ih =>
    rw [Act.worldAfter_succ, Act.worldAfter_succ, ih]
    simp [Act.noted, List.range_succ, Act.outcomeAt]

theorem Act.outcomeAt_noted (note : Except Failure α → β) (act : Act σ α) (n : Nat) (s : σ)
    (notes : List β) :
    Act.outcomeAt (act.noted note) n (s, notes) = Act.outcomeAt act n s := by
  rw [Act.outcomeAt, Act.worldAfter_noted]
  rfl

/-! ### Outcomes that can be reported -/

/-- What becomes of a step as far as its run can tell: a failure without a text breaks it off. -/
def StepOutcome.worded : StepOutcome → StepOutcome
  | .ended (.error e) =>
    match e.text with
    | .ok _ => .ended (.error e)
    | .error f => .broken f
  | out => out

theorem StepOutcome.worded_eq_ended_iff {out : StepOutcome} {outcome : Except Failure Value} :
    out.worded = .ended outcome ↔
      out = .ended outcome ∧ ∀ e, outcome = .error e → e.isWritable = true := by
  rcases out with (e | v) | f
  · rw [worded]
    cases he : e.text with
    | ok s =>
      have hwritable := (Failure.text_eq_ok_iff.mp he).1
      simp only [ended.injEq, iff_self_and]
      rintro rfl _ ⟨⟩
      exact hwritable
    | error f =>
      have hwordless := (Failure.text_eq_error_iff.mp he).1
      refine iff_of_false nofun ?_
      rintro ⟨⟨⟩, hworded⟩
      rw [hworded e rfl] at hwordless
      exact nomatch hwordless
  · simp only [worded, ended.injEq, iff_self_and]
    rintro rfl _ ⟨⟩
  · exact iff_of_false nofun nofun

theorem StepOutcome.worded_eq_broken_iff {out : StepOutcome} {f : Failure} :
    out.worded = .broken f ↔ out = .broken f ∨ ∃ e, out = .ended (.error e) ∧
      e.isWritable = false ∧ f = .fault (.numeral .tooLongToWrite) := by
  rcases out with (e | v) | f
  · rw [worded]
    cases he : e.text with
    | ok s =>
      have hwritable := (Failure.text_eq_ok_iff.mp he).1
      simp [hwritable]
    | error g =>
      obtain ⟨hwordless, rfl⟩ := Failure.text_eq_error_iff.mp he
      constructor
      · rintro ⟨⟩
        exact Or.inr ⟨e, rfl, hwordless, rfl⟩
      · rintro (h | ⟨e', -, -, rfl⟩)
        · exact nomatch h
        · rfl
  · simp [worded]
  · simp [worded]

/-! ### The number of attempts -/

/-- How attempts with up to `left` repetitions go, when `made` were made before: the attempt with
the number `last` is the last one. -/
structure Attempts.Go (act : Act σ Value) (backoff : Value) (left made : Nat) (s : σ)
    (a : Attempts σ) (last : Nat) : Prop where
  /-- All attempts are counted. -/
  count_eq : a.count = made + last + 1
  /-- The world has seen all of them. -/
  world_eq : a.world = Act.worldAfter act (last + 1) s
  /-- There is one pause less than there are attempts. -/
  pauses_length : a.pauses.length = last
  /-- Each attempt but the last one failed in a way that may pass, and a pause followed. -/
  repeated : ∀ i < last, ∃ e pause, Act.outcomeAt act i s = .error e ∧ e.isTransient = true ∧
    i < left ∧ backoff.doubled (made + i) = .ok pause ∧ a.pauses[i]? = some pause
  /-- The last one ends the attempts with its outcome, or the pause behind it breaks the run off. -/
  ended : (a.outcome = .ended (Act.outcomeAt act last s) ∧
      ∀ e, Act.outcomeAt act last s = .error e → e.isTransient = true → left ≤ last) ∨
    ∃ e broken, Act.outcomeAt act last s = .error e ∧ e.isTransient = true ∧
      backoff.doubled (made + last) = .error broken ∧ a.outcome = .broken broken

/-- An attempt after which none follows. -/
theorem Attempts.Go.single {act : Act σ Value} {backoff : Value} {left made : Nat} {s s' : σ}
    {outcome : Except Failure Value} {whole : StepOutcome} (hact : act s = (outcome, s'))
    (h : (whole = .ended outcome ∧
        ∀ e, outcome = .error e → e.isTransient = true → left = 0) ∨
      ∃ e broken, outcome = .error e ∧ e.isTransient = true ∧
        backoff.doubled made = .error broken ∧ whole = .broken broken) :
    Attempts.Go act backoff left made s ⟨whole, made + 1, [], s'⟩ 0 where
  count_eq := rfl
  world_eq := by simp [Act.worldAfter, hact]
  pauses_length := rfl
  repeated i hi := absurd hi (Nat.not_lt_zero i)
  ended := by simpa [Act.outcomeAt, Act.worldAfter, hact] using h

/-- An attempt in front of others. -/
theorem Attempts.Go.cons {act : Act σ Value} {backoff : Value} {left made : Nat} {s : σ}
    {a : Attempts σ} {last : Nat} {e : Failure} {pause : Value}
    (hfail : (act s).1 = .error e) (hmay : e.isTransient = true)
    (hpause : backoff.doubled made = .ok pause)
    (h : Attempts.Go act backoff left (made + 1) (act s).2 a last) :
    Attempts.Go act backoff (left + 1) made s { a with pauses := pause :: a.pauses }
      (last + 1) where
  count_eq := by
    have := h.count_eq
    simp only
    omega
  world_eq := h.world_eq
  pauses_length := by simp [h.pauses_length]
  repeated i hi := by
    cases i with
    | zero => exact ⟨e, pause, hfail, hmay, Nat.succ_pos left, hpause, rfl⟩
    | succ i =>
      obtain ⟨e', pause', h1, h2, h3, h4, h5⟩ := h.repeated i (Nat.lt_of_succ_lt_succ hi)
      refine ⟨e', pause', h1, h2, Nat.succ_lt_succ h3, ?_, h5⟩
      rwa [Nat.add_assoc, Nat.add_comm 1 i] at h4
  ended := by
    rcases h.ended with ⟨hend, hstop⟩ | ⟨e', broken, h1, h2, h3, h4⟩
    · exact Or.inl ⟨hend, fun e' h1 h2 => Nat.succ_le_succ (hstop e' h1 h2)⟩
    · refine Or.inr ⟨e', broken, h1, h2, ?_, h4⟩
      rwa [Nat.add_assoc, Nat.add_comm 1 last] at h3

theorem attemptsFrom_go (act : Act σ Value) (backoff : Value) (left made : Nat) (s : σ) :
    ∃ last, Attempts.Go act backoff left made s (attemptsFrom act backoff left made s) last := by
  induction left generalizing made s with
  | zero =>
    refine ⟨0, ?_⟩
    rw [attemptsFrom]
    rcases hact : act s with ⟨outcome, s'⟩
    cases outcome with
    | ok output => exact .single hact (Or.inl ⟨rfl, by simp⟩)
    | error e =>
      simp only [ite_self]
      exact .single hact (Or.inl ⟨rfl, fun _ _ _ => rfl⟩)
  | succ left ih =>
    -- Only a failure that may pass, with a pause behind it, leads on to the attempts left.
    rw [attemptsFrom]
    rcases hact : act s with ⟨outcome, s'⟩
    cases outcome with
    | ok output => exact ⟨0, .single hact (Or.inl ⟨rfl, by simp⟩)⟩
    | error e =>
      by_cases hmay : e.isTransient = true
      · simp only [hmay, ↓reduceIte]
        cases hpause : backoff.doubled made with
        | error broken => exact ⟨0, .single hact (Or.inr ⟨e, broken, rfl, hmay, hpause, rfl⟩)⟩
        | ok pause =>
          obtain ⟨last, h⟩ := ih (made + 1) s'
          refine ⟨last + 1, .cons (by rw [hact]) hmay hpause ?_⟩
          rwa [hact]
      · simp only [hmay, Bool.false_eq_true, ↓reduceIte]
        exact ⟨0, .single hact (Or.inl ⟨rfl, by simp [hmay]⟩)⟩

/-! ### Attempts at a step -/

/-- Whether the attempt at a step with the given number and outcome is followed by another one. -/
def Step.TriesAgain (step : Step) (options : Options) (n : Nat)
    (outcome : Except Failure Value) : Prop :=
  ∃ e limit pause, outcome = .error e ∧ e.isTransient = true ∧
    step.retries options = .ok limit ∧ n < limit ∧ options.retryBackoff.doubled n = .ok pause

/-- Only a step that is to be tried again is, and only after a failure that may pass, with attempts
left and a pause that can be reckoned. -/
theorem Step.triesAgain_iff (step : Step) (options : Options) (n : Nat)
    (outcome : Except Failure Value) :
    step.TriesAgain options n outcome ↔ step.onError = .retry ∧
      (∃ e, outcome = .error e ∧ e.isTransient = true) ∧
      (∃ limit, options.retries.count = .ok limit ∧ n < limit) ∧
      ∃ pause, options.retryBackoff.doubled n = .ok pause := by
  unfold Step.TriesAgain StepHeader.retries
  by_cases hretry : step.onError = .retry
  · simp only [hretry, ↓reduceIte, true_and]
    constructor
    · rintro ⟨e, limit, pause, he, hmay, hlimit, hlt, hpause⟩
      exact ⟨⟨e, he, hmay⟩, ⟨limit, hlimit, hlt⟩, pause, hpause⟩
    · rintro ⟨⟨e, he, hmay⟩, ⟨limit, hlimit, hlt⟩, pause, hpause⟩
      exact ⟨e, limit, pause, he, hmay, hlimit, hlt, hpause⟩
  · simp only [hretry, ↓reduceIte, false_and, iff_false]
    rintro ⟨e, limit, pause, -, -, hlimit, hlt, -⟩
    rw [← Except.ok.inj hlimit] at hlt
    exact absurd hlt (Nat.not_lt_zero n)

/-- How the attempts at a step go: the attempt with the number `last` is the last one. -/
structure Step.Attempted (step : Step) (options : Options) (act : Act σ Value) (s : σ)
    (a : Attempts σ) (last : Nat) : Prop where
  /-- All attempts are counted. -/
  count_eq : a.count = last + 1
  /-- The world has seen all of them. -/
  world_eq : a.world = Act.worldAfter act (last + 1) s
  /-- Each attempt but the last one is followed by another one, as it should. -/
  repeated : ∀ i < last, step.TriesAgain options i (Act.outcomeAt act i s)
  /-- The last one should not be followed by another one. -/
  not_repeated : ¬ step.TriesAgain options last (Act.outcomeAt act last s)
  /-- The step ends with the outcome of its last attempt, unless the number of attempts or the
  pause between them is beyond reckoning. -/
  ended : a.outcome = .ended (Act.outcomeAt act last s) ∨
    ∃ e broken, Act.outcomeAt act last s = .error e ∧ a.outcome = .broken broken ∧
      (step.retries options = .error broken ∨
        e.isTransient = true ∧ options.retryBackoff.doubled last = .error broken)

theorem Step.attempt_attempted (step : Step) (options : Options) (act : Act σ Value) (s : σ) :
    ∃ last, step.Attempted options act s (step.attempt options act s) last := by
  unfold Step.attempt
  cases hlimit : step.retries options with
  | error broken =>
    -- Without a number of attempts there is no limit that `TriesAgain` could respect.
    have hnone : ∀ n outcome, ¬ step.TriesAgain options n outcome := by
      rintro n outcome ⟨-, limit, -, -, -, h, -⟩
      rw [hlimit] at h
      cases h
    refine ⟨0, ?_⟩
    simp only [onlyAttempt]
    rcases hact : act s with ⟨outcome, s'⟩
    cases outcome with
    | ok output =>
      exact ⟨rfl, by simp [Act.worldAfter, hact], by simp, hnone _ _,
        Or.inl (by simp [Act.outcomeAt, Act.worldAfter, hact])⟩
    | error e =>
      exact ⟨rfl, by simp [Act.worldAfter, hact], by simp, hnone _ _,
        Or.inr ⟨e, broken, by simp [Act.outcomeAt, Act.worldAfter, hact], rfl, Or.inl hlimit⟩⟩
  | ok limit =>
    obtain ⟨last, h⟩ := attemptsFrom_go act options.retryBackoff limit 0 s
    refine ⟨last, by simpa using h.count_eq, h.world_eq, ?_, ?_, ?_⟩
    · intro i hi
      obtain ⟨e, pause, h1, h2, h3, h4, -⟩ := h.repeated i hi
      exact ⟨e, limit, pause, h1, h2, hlimit, h3, by rwa [Nat.zero_add] at h4⟩
    · rintro ⟨e, limit', pause, h1, h2, h3, h4, h5⟩
      obtain rfl := Except.ok.inj (hlimit.symm.trans h3)
      rcases h.ended with ⟨-, hstop⟩ | ⟨-, broken, -, -, hbroken, -⟩
      · exact absurd (hstop e h1 h2) (Nat.not_le.mpr h4)
      · rw [Nat.zero_add, h5] at hbroken
        cases hbroken
    · rcases h.ended with ⟨hend, -⟩ | ⟨e, broken, h1, h2, h3, h4⟩
      · exact Or.inl hend
      · exact Or.inr ⟨e, broken, h1, h4, Or.inr ⟨h2, by rwa [Nat.zero_add] at h3⟩⟩

namespace Step.Attempted

variable {step : Step} {options : Options} {act : Act σ Value} {s : σ} {a : Attempts σ}
  {last : Nat}

/-- Of the attempts made, exactly those that should be are followed by another one. -/
theorem succ_lt_count_iff (h : step.Attempted options act s a last) {i : Nat}
    (hi : i < a.count) :
    i + 1 < a.count ↔ step.TriesAgain options i (Act.outcomeAt act i s) := by
  rw [h.count_eq] at hi ⊢
  constructor
  · intro hlt
    exact h.repeated i (Nat.lt_of_succ_lt_succ hlt)
  · intro htry
    have hne : i ≠ last := by
      rintro rfl
      exact h.not_repeated htry
    omega

/-- A step whose end can be reported has ended as its last attempt has. -/
theorem eq_outcomeAt (h : step.Attempted options act s a last) {outcome : Except Failure Value}
    (hout : a.outcome.worded = .ended outcome) : outcome = Act.outcomeAt act last s := by
  obtain ⟨hended, -⟩ := StepOutcome.worded_eq_ended_iff.mp hout
  rcases h.ended with hend | ⟨-, broken, -, hbroken, -⟩
  · exact StepOutcome.ended.inj (hended.symm.trans hend)
  · exact nomatch hended.symm.trans hbroken

end Step.Attempted

/-! ### Attempts that fail alike -/

section FailingAlike

variable (step : Step) (options : Options) (e : Failure) (s : σ)

/-- Attempts without an effect leave the world as it is. -/
theorem Step.world_of_done (outcome : Except Failure Value) :
    (step.attempt options (Act.done outcome) s).world = s := by
  obtain ⟨last, h⟩ := step.attempt_attempted options (Act.done outcome) s
  rw [h.world_eq, Act.worldAfter_done]

/-- After a failure that does not pass there is no further attempt. -/
theorem Step.count_of_lasting (he : e.isTransient = false) :
    (step.attempt options (Act.done (.error e)) s).count = 1 := by
  obtain ⟨last, h⟩ := step.attempt_attempted options (Act.done (.error e)) s
  rw [h.count_eq]
  cases last with
  | zero => rfl
  | succ last =>
    obtain ⟨e', -, -, he', hmay, -⟩ := h.repeated 0 (Nat.succ_pos last)
    obtain rfl := Except.error.inj he'
    rw [he] at hmay
    cases hmay

/-- After a failure that may pass all attempts are made, if it is the same again and again. -/
theorem Step.count_of_transient (he : e.isTransient = true) (hretry : step.onError = .retry)
    {limit : Nat} (hlimit : options.retries.count = .ok limit)
    (hpause : ∀ i < limit, ∃ pause, options.retryBackoff.doubled i = .ok pause) :
    (step.attempt options (Act.done (.error e)) s).count = limit + 1 := by
  have htries : ∀ i, step.TriesAgain options i (.error e) ↔ i < limit := by
    intro i
    rw [step.triesAgain_iff]
    constructor
    · rintro ⟨-, -, ⟨limit', hlimit', hi⟩, -⟩
      obtain rfl := Except.ok.inj (hlimit.symm.trans hlimit')
      exact hi
    · exact fun hi => ⟨hretry, ⟨e, rfl, he⟩, ⟨limit, hlimit, hi⟩, hpause i hi⟩
  obtain ⟨last, h⟩ := step.attempt_attempted options (Act.done (.error e)) s
  -- The last attempt is the first one that may not be followed by another.
  have hend : ¬ last < limit := mt (htries last).mpr h.not_repeated
  have hlast : ¬ limit < last :=
    fun hlt => absurd ((htries limit).mp (h.repeated limit hlt)) (Nat.lt_irrefl limit)
  rw [h.count_eq]
  omega

end FailingAlike

end Workflow
