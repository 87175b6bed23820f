import Workflow.Expression.Resolution
import Workflow.Result.Basic
import Workflow.Service.Basic
import Workflow.Trace.Span

/-!
# The engine

The engine runs the steps of a definition strictly in order.  A step that fails ends the run, is
skipped or is tried again, as its definition says; only failures that may pass are tried again.
The output of a step is recorded in the context before the next step starts.  Each step leaves its
result and a span, which are written one after the other however the step ends.  The engine knows
attempts at steps only as calls on an outside world, so it works with any handlers.
-/

namespace Workflow

/-! ### Attempts -/

/-- What became of a step. -/
inductive StepOutcome where
  /-- The step came to an end with an output or a failure. -/
  | ended (outcome : Except Failure Value)
  /-- The attempts or the pauses between them cannot be counted; the whole run breaks off. -/
  | broken (failure : Failure)

/-- Attempts at a step: the outcome, the number of attempts, the pauses between them, and the
outside world behind them. -/
structure Attempts (σ : Type) where
  /-- The outcome. -/
  outcome : StepOutcome
  /-- The number of attempts. -/
  count : Nat
  /-- The pauses between the attempts. -/
  pauses : List Value
  /-- The outside world behind them. -/
  world : σ

/-- Makes an attempt and, while its failure may pass, up to `left` further ones; `made` attempts
were made before.  The pause doubles from attempt to attempt. -/
def attemptsFrom {σ : Type} (attempt : Act σ Value) (backoff : Value) (left made : Nat)
    (s : σ) : Attempts σ :=
  match attempt s with
  | (.ok v, s') => ⟨.ended (.ok v), made + 1, [], s'⟩
  | (.error e, s') =>
    if e.isTransient then
      match left with
      | 0 => ⟨.ended (.error e), made + 1, [], s'⟩
      | left + 1 =>
        match backoff.doubled made with
        | .error broken => ⟨.broken broken, made + 1, [], s'⟩
        | .ok pause =>
          let more := attemptsFrom attempt backoff left (made + 1) s'
          { more with pauses := pause :: more.pauses }
    else ⟨.ended (.error e), made + 1, [], s'⟩
termination_by structural left

/-- Makes an attempt whose failure breaks the run off, as nobody can say whether another one may
follow. -/
def onlyAttempt {σ : Type} (attempt : Act σ Value) (broken : Failure) (s : σ) : Attempts σ :=
  match attempt s with
  | (.ok v, s') => ⟨.ended (.ok v), 1, [], s'⟩
  | (.error _, s') => ⟨.broken broken, 1, [], s'⟩

/-- The number of further attempts that a step may have. -/
def StepHeader.retries (header : StepHeader) (options : Options) : Except Failure Nat :=
  if header.onError = .retry then options.retries.count else .ok 0

/-- Makes attempts at a step. -/
def Step.attempt {σ : Type} (step : Step) (options : Options) (attempt : Act σ Value) (s : σ) :
    Attempts σ :=
  match step.retries options with
  | .ok more => attemptsFrom attempt options.retryBackoff more 0 s
  | .error broken => onlyAttempt attempt broken s

/-! ### Recording -/

/-- Records an output under the id of a step and under its alias.  Where the alias is taken, the
entry under the id stands. -/
def Context.register (c : Context) (step : StepHeader) (output : Value) :
    Context × Option Fault :=
  match c.recordOutput step.id output with
  | .error e => (c, some e)
  | .ok c' =>
    if step.outputAs.isEmpty || step.outputAs == step.id then (c', none)
    else
      match c'.recordOutput step.outputAs output with
      | .error e => (c', some e)
      | .ok c'' => (c'', none)

/-- Records that a step was skipped, unless something is recorded under its id. -/
def Context.registerSkipped (c : Context) (step : StepHeader) : Context :=
  match c.recordSkipped step.id with
  | .error _ => c
  | .ok c' => c'

/-- The failure of a step whose output cannot be recorded. -/
def registrationFailure : Fault → Failure
  | .keyTaken key => .misconfigured (.keyTaken key)
  | f => .fault f

/-! ### Steps in order -/

/-- How far a run has come. -/
structure Progress (σ : Type) where
  /-- The context. -/
  context : Context
  /-- The outcomes of the steps so far. -/
  results : List (String × StepResult) := []
  /-- The pauses so far. -/
  pauses : List Value := []
  /-- The spans so far. -/
  spans : List Span := []
  /-- The outside world. -/
  world : σ

/-- Why a run ends before its last step. -/
inductive Halt where
  /-- A step failed, with the given text. -/
  | failed (label text : String)
  /-- The run broke off. -/
  | broken (failure : Failure)

/-- The span of a step that has not ended. -/
def Step.span (step : Step) : Span :=
  .start (.text step.label)
    (Rows.ofFields [("step.id", .text step.id), ("step.type", .text step.action.kind)])

namespace Progress

variable {σ : Type}

/-- Writes the outcome of a step. -/
def putResult (p : Progress σ) (step : Step) (r : StepResult) : Progress σ :=
  { p with results := Fields.put p.results step.id r }

/-- Adds the span of a step. -/
def addSpan (p : Progress σ) (span : Span) : Progress σ := { p with spans := p.spans ++ [span] }

/-- A step has succeeded. -/
def succeed (p : Progress σ) (step : Step) (span : Span) (output : Value) (attempts : Nat) :
    Progress σ :=
  (p.putResult step { success := true, output, attempts }).addSpan
    (span.finish (.text StepStatus.succeeded.name) .null)

/-- A step is skipped after a failure with the given text. -/
def skip (p : Progress σ) (step : Step) (span : Span) (text : String) (attempts : Nat) :
    Progress σ :=
  let marked := { p with context := p.context.registerSkipped step.toStepHeader }
  (marked.putResult step
      { success := false, error := some text, status := .skipped, attempts }).addSpan
    (span.finish (.text StepStatus.skipped.name) (.text text))

/-- A step has failed with the given text. -/
def fail (p : Progress σ) (step : Step) (span : Span) (text : String) (attempts : Nat) :
    Progress σ :=
  (p.putResult step { success := false, error := some text, status := .failed, attempts }).addSpan
    (span.finish (.text StepStatus.failed.name) (.text text))

/-- What follows from a failure of a step.  Without a text of the failure the run breaks off, and
the span of the step does not end. -/
def giveUp (p : Progress σ) (step : Step) (span : Span) (e : Failure) (attempts : Nat) :
    Progress σ × Option Halt :=
  match e.text with
  | .error broken => (p.addSpan span, some (.broken broken))
  | .ok text =>
    if step.onError = .skip then (p.skip step span text attempts, none)
    else (p.fail step span text attempts, some (.failed step.label text))

/-- What follows from the end of the attempts at a step.  An output that cannot be recorded makes
the step fail. -/
def settle (p : Progress σ) (step : Step) (outcome : Except Failure Value) (attempts : Nat) :
    Progress σ × Option Halt :=
  let span := step.span.setAttribute (.text "attempts") (.int attempts)
  match outcome with
  | .error e => p.giveUp step span e attempts
  | .ok output =>
    match p.context.register step.toStepHeader output with
    | (c, none) => ({ p with context := c }.succeed step span output attempts, none)
    | (c, some f) => { p with context := c }.giveUp step span (registrationFailure f) attempts

end Progress

/-- Runs one step. -/
def runStep {σ : Type} (attempt : Step → Context → Act σ Value) (options : Options) (step : Step)
    (p : Progress σ) : Progress σ × Option Halt :=
  let a := step.attempt options (attempt step p.context) p.world
  let p' := { p with pauses := p.pauses ++ a.pauses, world := a.world }
  match a.outcome with
  | .broken e => (p'.addSpan step.span, some (.broken e))
  | .ended outcome => p'.settle step outcome a.count

/-- Runs steps in order until one ends the run. -/
def runSteps {σ : Type} (attempt : Step → Context → Act σ Value) (options : Options) :
    List Step → Progress σ → Progress σ × Option Halt
  | [], p => (p, none)
  | step :: steps, p =>
    match runStep attempt options step p with
    | (p', none) => runSteps attempt options steps p'
    | (p', some halt) => (p', some halt)

/-! ### Runs -/

/-- All that a run does: its outcome, its pauses, its spans and the outside world behind it. -/
structure Execution (σ : Type) where
  /-- The outcome; a run may break off without a result. -/
  outcome : Except Failure Result
  /-- The pauses between attempts. -/
  pauses : List Value
  /-- The spans of the steps. -/
  spans : List Span
  /-- The outside world. -/
  world : σ

/-- The result of a run all of whose steps have been executed. -/
def finishRun (mapping : List (String × Value)) (c : Context)
    (results : List (String × StepResult)) : Except Failure Result :=
  match c.resolveFields mapping with
  | .ok output => .ok { success := true, output, stepResults := results }
  | .error (.unresolved expression) =>
    .ok { success := false, stepResults := results,
          error := some ("Output mapping failed: " ++ unresolvedText expression) }
  | .error e => .error e

/-- The outcome of a run whose steps have been executed as far as they are. -/
def concludeRun (mapping : List (String × Value)) (c : Context)
    (results : List (String × StepResult)) : Option Halt → Except Failure Result
  | none => finishRun mapping c results
  | some (.failed label text) =>
    .ok { success := false, stepResults := results,
          error := some ("Step \"" ++ label ++ "\" failed: " ++ text) }
  | some (.broken e) => .error e

/-- Runs a definition. -/
def Definition.run {σ : Type} (d : Definition) (attempt : Step → Context → Act σ Value)
    (options : Options) (now : Value) (params : RunParams) (s : σ) : Execution σ :=
  match Context.start params options now with
  | .error e => ⟨.error e, [], [], s⟩
  | .ok c =>
    let (p, halt) := runSteps attempt options d.steps { context := c, world := s }
    ⟨concludeRun d.outputMapping p.context p.results halt, p.pauses, p.spans, p.world⟩

end Workflow
