import Workflow.Proofs.Engine.BreakOff
import Mathlib.Data.Nat.Find
import Mathlib.Order.Bounds.Basic

/-!
# How often a step is tried

The attempts at a step go on until one of them settles the step (`Step.SettledBy`): it succeeds, it
fails for good, or it is the last one that the step may have.  The step ends with the outcome of the
first attempt that does so, there is one pause between two attempts, and the pauses double
(`attempts_until_settled`).

There is one exception.  A pause is reckoned behind the failure of an attempt.  Where it is a
double, the power of two that belongs to it is too large for a double behind the attempt with the
number 1025, even if the pause itself would not be: the attempts break off there, although others
were to follow (`settling_attempt_missed`).
-/

namespace Workflow

variable {σ : Type} {step : Step} {options : Options} {act : Act σ Value} {s : σ}

/-! ### Attempts counted from one -/

/-- The outcome of the attempt with the number `n`, counted from one. -/
def Act.nthOutcome (act : Act σ Value) (s : σ) (n : Nat) : Except Failure Value :=
  Act.outcomeAt act (n - 1) s

/-- The attempt with the number `n`, counted from one, settles a step: it succeeds, it fails for
good, or it is the last one that the step may have. -/
def Step.SettledBy (step : Step) (retries : Int) (outcome : Nat → Except Failure Value) (n : Nat) :
    Prop :=
  (∃ v, outcome n = .ok v) ∨ (∃ e, outcome n = .error e ∧ e.isTransient = false) ∨
    (n : Int) = 1 + max 0 (if step.onError = .retry then retries else 0)

/-- The number of further attempts that a step may have. -/
def Step.furtherAttempts (step : Step) (retries : Int) : Nat :=
  if step.onError = .retry then retries.toNat else 0

theorem Step.retries_eq {retries : Int} (h : options.retries = .int retries) (step : Step) :
    step.retries options = .ok (step.furtherAttempts retries) := by
  rw [StepHeader.retries, Step.furtherAttempts, h]
  split_ifs <;> rfl

theorem Step.last_iff (step : Step) (retries : Int) (i : Nat) :
    ((i + 1 : Nat) : Int) = 1 + max 0 (if step.onError = .retry then retries else 0) ↔
      i = step.furtherAttempts retries := by
  rw [Step.furtherAttempts]
  split_ifs <;> omega

/-- Nothing is settled by an attempt that fails in a way that may pass and is not the last one. -/
theorem Step.not_settledBy_iff {retries : Int} {i : Nat} :
    ¬ step.SettledBy retries (Act.nthOutcome act s) (i + 1) ↔
      (∃ e, Act.outcomeAt act i s = .error e ∧ e.isTransient = true) ∧
        i ≠ step.furtherAttempts retries := by
  rw [Step.SettledBy, Step.last_iff, Act.nthOutcome, Nat.add_sub_cancel]
  cases houtcome : Act.outcomeAt act i s with
  | ok v => simp
  | error e => simp

/-- Some attempt settles a step. -/
theorem Step.exists_isLeast_settledBy (step : Step) (retries : Int)
    (outcome : Nat → Except Failure Value) :
    ∃ n, IsLeast {n | 1 ≤ n ∧ step.SettledBy retries outcome n} n := by
  have hlast : step.SettledBy retries outcome (step.furtherAttempts retries + 1) :=
    Or.inr (Or.inr ((step.last_iff retries _).mpr rfl))
  classical
  have hsome : ∃ n, 1 ≤ n ∧ step.SettledBy retries outcome n := ⟨_, Nat.le_add_left 1 _, hlast⟩
  exact ⟨Nat.find hsome, Nat.find_spec hsome, fun n hn => Nat.find_min' hsome hn⟩

/-! ### Pauses -/

/-- There is one pause between two attempts, and the pauses double. -/
theorem attemptsFrom_pauses (act : Act σ Value) (backoff : Value) (limit : Nat) (s : σ) :
    (attemptsFrom act backoff limit 0 s).pauses.length + 1
        = (attemptsFrom act backoff limit 0 s).count ∧
      ∀ i, i + 1 < (attemptsFrom act backoff limit 0 s).count → ∃ pause,
        backoff.doubled i = .ok pause ∧
        (attemptsFrom act backoff limit 0 s).pauses[i]? = some pause := by
  obtain ⟨last, h⟩ := attemptsFrom_go act backoff limit 0 s
  have hcount : (attemptsFrom act backoff limit 0 s).count = last + 1 := by
    rw [h.count_eq, Nat.zero_add]
  refine ⟨by rw [h.pauses_length, hcount], fun i hi => ?_⟩
  obtain ⟨-, pause, -, -, -, hpause, hat⟩ := h.repeated i (by omega)
  rw [Nat.zero_add] at hpause
  exact ⟨pause, hpause, hat⟩

/-- A number can be doubled unless it is a double and the power of two is none. -/
theorem exists_doubled {backoff : Value} (h : (Number.ofValue? backoff).isSome = true) {i : Nat}
    (hi : (∃ y, backoff = .float y) → i < 1024) : ∃ pause, backoff.doubled i = .ok pause := by
  cases hpause : backoff.doubled i with
  | ok pause => exact ⟨pause, rfl⟩
  | error e =>
    obtain ⟨hdouble, hle, -⟩ := (Value.doubled_eq_error_iff h).mp hpause
    exact absurd (hi hdouble) (Nat.not_lt.mpr hle)

/-! ### The first attempt that settles a step -/

section

variable {retries : Int} {n : Nat}
  (hn : IsLeast {n | 1 ≤ n ∧ step.SettledBy retries (Act.nthOutcome act s) n} n)

include hn

/-- All attempts in front of the first one that settles a step fail in a way that may pass, and
there are others left. -/
theorem Step.failing_before_settled {i : Nat} (hi : i + 1 < n) :
    (∃ e, Act.outcomeAt act i s = .error e ∧ e.isTransient = true) ∧
      i < step.furtherAttempts retries := by
  have hopen : ¬ step.SettledBy retries (Act.nthOutcome act s) (i + 1) :=
    fun hsettled => absurd (hn.2 ⟨Nat.le_add_left 1 i, hsettled⟩) (Nat.not_le.mpr hi)
  have hlast : n ≤ step.furtherAttempts retries + 1 :=
    hn.2 ⟨Nat.le_add_left 1 _, Or.inr (Or.inr ((step.last_iff retries _).mpr rfl))⟩
  obtain ⟨hfail, -⟩ := Step.not_settledBy_iff.mp hopen
  exact ⟨hfail, by omega⟩

/-- Attempts go on up to the one that settles the step, as long as the pauses can be reckoned. -/
theorem Step.Attempted.succ_last_eq (hretries : options.retries = .int retries)
    {a : Attempts σ} {last : Nat} (h : step.Attempted options act s a last)
    (hpauses : ∀ i, i + 1 < n → ∃ pause, options.retryBackoff.doubled i = .ok pause) :
    last + 1 = n := by
  have hlimit := step.retries_eq hretries
  rcases Nat.lt_trichotomy (last + 1) n with hlt | heq | hgt
  · -- Another attempt was to follow the last one.
    obtain ⟨⟨e, he, hmay⟩, hleft⟩ := Step.failing_before_settled hn hlt
    obtain ⟨pause, hpause⟩ := hpauses last hlt
    exact absurd ⟨e, _, pause, he, hmay, hlimit, hleft, hpause⟩ h.not_repeated
  · exact heq
  · -- The attempt that settles the step was followed by another one.
    obtain ⟨i, rfl⟩ : ∃ i, n = i + 1 := ⟨n - 1, by have := hn.1.1; omega⟩
    obtain ⟨e, limit, pause, he, hmay, hlimit', hleft, -⟩ := h.repeated i (by omega)
    obtain rfl := Except.ok.inj (hlimit.symm.trans hlimit')
    exact absurd hn.1.2 (Step.not_settledBy_iff.mpr ⟨⟨e, he, hmay⟩, by omega⟩)

/-- Attempts outrun their pauses exactly if these are doubles and the step is settled too late. -/
theorem Step.outrunsPauses_iff (hretries : options.retries = .int retries) :
    step.OutrunsPauses options act s ↔
      (∃ y, options.retryBackoff = .float y) ∧ 1025 < n := by
  have hcount : options.retries.count = .ok retries.toNat := by
    rw [hretries]
    rfl
  constructor
  · rintro ⟨hretried, hdouble, ⟨limit, hlimit, hlt⟩, hfailing⟩
    obtain rfl := Except.ok.inj (hcount.symm.trans hlimit)
    have hfurther : step.furtherAttempts retries = retries.toNat := if_pos hretried
    refine ⟨hdouble, ?_⟩
    by_contra hle
    obtain ⟨i, rfl⟩ : ∃ i, n = i + 1 := ⟨n - 1, by have := hn.1.1; omega⟩
    exact absurd hn.1.2 (Step.not_settledBy_iff.mpr ⟨hfailing i (by omega), by omega⟩)
  · rintro ⟨hdouble, hlt⟩
    have hleft := (Step.failing_before_settled hn (i := 1024) hlt).2
    have hretried : step.onError = .retry := by
      by_contra hne
      rw [Step.furtherAttempts, if_neg hne] at hleft
      exact absurd hleft (Nat.not_lt_zero 1024)
    rw [Step.furtherAttempts, if_pos hretried] at hleft
    refine ⟨hretried, hdouble, ⟨_, hcount, hleft⟩, fun i hi => ?_⟩
    exact (Step.failing_before_settled hn (by omega)).1

end

/-- How the attempts at a step go, if the one with the number `n` is the first that settles it. -/
structure Attempts.SettledAt (a : Attempts σ) (options : Options) (act : Act σ Value) (s : σ)
    (n : Nat) : Prop where
  /-- The world has seen all attempts that are counted and no other. -/
  world_eq : a.world = Act.worldAfter act a.count s
  /-- There is one pause between two attempts. -/
  pauses_length : a.pauses.length + 1 = a.count
  /-- The pauses double, from the one that is set on. -/
  pauses_eq : ∀ i, i + 1 < a.count → ∃ pause, options.retryBackoff.doubled i = .ok pause ∧
    a.pauses[i]? = some pause
  /-- The attempts end with the one that settles the step, and with its outcome. -/
  reached : ((∃ y, options.retryBackoff = .float y) → n ≤ 1025) →
    a.count = n ∧ a.outcome = .ended (act.nthOutcome s n)
  /-- A double cannot be doubled so often that the attempts come so far. -/
  missed : (∃ y, options.retryBackoff = .float y) → 1025 < n →
    a.count = 1025 ∧ a.outcome = .broken (.fault .integerTooLarge)

/-- **Attempts go on until one settles the step.**  They end with the first one that succeeds, that
fails for good or that is the last one allowed, unless the pause is a double and more than 1025
attempts would be needed. -/
theorem attempts_until_settled (step : Step) (options : Options) (act : Act σ Value) (s : σ)
    {retries : Int} (hretries : options.retries = .int retries)
    (hbackoff : (Number.ofValue? options.retryBackoff).isSome = true) :
    ∃ n, IsLeast {n | 1 ≤ n ∧ step.SettledBy retries (act.nthOutcome s) n} n ∧
      (step.attempt options act s).SettledAt options act s n := by
  obtain ⟨n, hn⟩ := step.exists_isLeast_settledBy retries (act.nthOutcome s)
  obtain ⟨last, h⟩ := step.attempt_attempted options act s
  have hnumber : (Number.ofValue? options.retries).isSome = true := by
    rw [hretries]
    rfl
  have hbroken : ∀ f, (step.attempt options act s).outcome = .broken f ↔
      ((∃ y, options.retryBackoff = .float y) ∧ 1025 < n) ∧ f = .fault .integerTooLarge := by
    intro f
    rw [step.attempt_broken_iff hnumber hbackoff act s f, Step.outrunsPauses_iff hn hretries]
  have hpauses := attemptsFrom_pauses act options.retryBackoff (step.furtherAttempts retries) s
  have hfrom : step.attempt options act s
      = attemptsFrom act options.retryBackoff (step.furtherAttempts retries) 0 s := by
    rw [Step.attempt, step.retries_eq hretries]
  refine ⟨n, hn, ?_⟩
  constructor
  case world_eq => rw [h.count_eq, h.world_eq]
  case pauses_length =>
    rw [hfrom]
    exact hpauses.1
  case pauses_eq =>
    rw [hfrom]
    exact hpauses.2
  case reached =>
    intro hreach
    -- All pauses in front of the attempt with the number `n` can be reckoned.
    have hlast : last + 1 = n := h.succ_last_eq hn hretries fun i hi =>
      exists_doubled hbackoff fun hdouble => by
        have hle := hreach hdouble
        omega
    have houtcome : act.nthOutcome s n = Act.outcomeAt act last s := by
      rw [← hlast, Act.nthOutcome, Nat.add_sub_cancel]
    refine ⟨h.count_eq.trans hlast, ?_⟩
    rw [houtcome]
    rcases h.ended with hended | ⟨e, broken, -, hout, -⟩
    · exact hended
    · obtain ⟨⟨hdouble, hlt⟩, -⟩ := (hbroken broken).mp hout
      exact absurd (hreach hdouble) (Nat.not_le.mpr hlt)
  case missed =>
    intro hdouble hlt
    -- The pause behind 1025 attempts is the first one that is out of the reach of a double.
    have hbeyond : options.retryBackoff.doubled 1024 = .error (.fault .integerTooLarge) :=
      (Value.doubled_eq_error_iff hbackoff).mpr ⟨hdouble, le_rfl, rfl⟩
    have hlast : last = 1024 := by
      rcases Nat.lt_trichotomy last 1024 with hless | heq | hmore
      · obtain ⟨⟨e, he, hmay⟩, hleft⟩ := Step.failing_before_settled hn (i := last) (by omega)
        obtain ⟨pause, hpause⟩ := exists_doubled hbackoff fun _ => hless
        exact absurd ⟨e, _, pause, he, hmay, step.retries_eq hretries, hleft, hpause⟩
          h.not_repeated
      · exact heq
      · obtain ⟨-, -, pause, -, -, -, -, hpause⟩ := h.repeated 1024 hmore
        cases hbeyond.symm.trans hpause
    refine ⟨by rw [h.count_eq, hlast], (hbroken _).mpr ⟨⟨hdouble, hlt⟩, rfl⟩⟩

/-- A step that is to be tried again. -/
def notice : Step := ⟨{ id := "notice", onError := .retry }, .transform (some (.int 7))⟩

/-- An act that fails once in a way that may pass, and then succeeds. -/
def recovering : Act Nat Value := fun n =>
  (if n = 0 then .error (.fault .notTexts) else .ok (.int 7), n + 1)

/-- The second attempt succeeds, although a third one would be left. -/
theorem attempts_until_settled_notice : ({} : Options).retries = .int 2 ∧
    (Number.ofValue? ({} : Options).retryBackoff).isSome = true ∧
    (notice.attempt {} recovering 0).count = 2 := by
  obtain ⟨n, hn, h⟩ := attempts_until_settled notice {} recovering 0 rfl rfl
  have hsecond : n ≤ 2 := hn.2 ⟨by omega, Or.inl ⟨.int 7, rfl⟩⟩
  have hfirst : n ≠ 1 := by
    rintro rfl
    have hopen : ¬ notice.SettledBy 2 (recovering.nthOutcome 0) (0 + 1) :=
      Step.not_settledBy_iff.mpr ⟨⟨.fault .notTexts, rfl, rfl⟩, by decide⟩
    exact hopen hn.1.2
  have hn2 : n = 2 := by
    have := hn.1.1
    omega
  refine ⟨rfl, rfl, ?_⟩
  rw [(h.reached fun _ => by omega).1, hn2]

/-- Options with many retries and without a pause between them. -/
def patient : Options := { retries := .int 1025, retryBackoff := .float 0 }

/-- The attempt that settles a step need not be reached, even where all pauses are nothing. -/
theorem settling_attempt_missed :
    ¬ ∀ n, IsLeast {n | 1 ≤ n ∧ notice.SettledBy 1025
        (Act.nthOutcome (Act.done (.error (.fault .notTexts))) ()) n} n →
      (notice.attempt patient (Act.done (.error (.fault .notTexts))) ()).count = n := by
  intro hreached
  have houtcome : ∀ n, Act.nthOutcome (Act.done (.error (.fault .notTexts))) () n
      = .error (.fault .notTexts) := fun n => by
    rw [Act.nthOutcome, Act.outcomeAt, Act.worldAfter_done]
    rfl
  have hleast : IsLeast {n | 1 ≤ n ∧ notice.SettledBy 1025
      (Act.nthOutcome (Act.done (.error (.fault .notTexts))) ()) n} 1026 := by
    refine ⟨⟨by omega, Or.inr (Or.inr rfl)⟩, ?_⟩
    rintro n ⟨-, ⟨v, hv⟩ | ⟨e, he, hlasting⟩ | hlast⟩
    · cases (houtcome n).symm.trans hv
    · obtain rfl := Except.error.inj ((houtcome n).symm.trans he)
      cases hlasting
    · have hn : (n : Int) = 1026 := hlast
      omega
  obtain ⟨last, h⟩ :=
    notice.attempt_attempted patient (Act.done (.error (.fault .notTexts))) ()
  have hlast : last + 1 = 1026 := h.count_eq.symm.trans (hreached 1026 hleast)
  -- The pause behind the attempt with the number 1025 cannot be reckoned.
  obtain ⟨-, -, pause, -, -, -, -, hpause⟩ := h.repeated 1024 (by omega)
  cases hpause

end Workflow
