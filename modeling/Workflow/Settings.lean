import Workflow.Client
import Workflow.Text.Case

/-!
# Settings

What a process sets for its runs: settings are read as text by name, and a setting that is absent
takes its default.  `Setup.create` puts options, tracer and backend together.
-/

namespace Workflow

/-- The settings of a process by name. -/
abbrev Settings := String → Option String

namespace Settings

/-- The text of a setting. -/
def textOf (settings : Settings) (name standard : String) : String :=
  (settings name).getD standard

/-- The number of further attempts. -/
def retries (settings : Settings) : Except Failure Int :=
  (Numeral.readInt (settings.textOf "RETRIES" "2")).mapError fun e => .fault (.numeral e)

/-- The pause before the first further attempt. -/
def retryBackoff (settings : Settings) : Except Failure Float :=
  (Numeral.readFloat (settings.textOf "RETRY_BACKOFF" "0.1")).mapError fun e => .fault (.numeral e)

/-- The texts that mean no time limit. -/
def noTimeout : List String := ["", "none", "0"]

/-- The time limit of a request. -/
def httpTimeout (settings : Settings) : Except Failure (Option Float) :=
  let t := Text.lower (trimmed (settings.textOf "HTTP_TIMEOUT" "30"))
  if noTimeout.contains t then .ok none
  else (Numeral.readFloat t).map some |>.mapError fun e => .fault (.numeral e)

/-- The texts that mean yes. -/
def affirmations : List String := ["true", "1", "yes", "y"]

/-- Whether spans are logged. -/
def logSpans (settings : Settings) : Bool :=
  affirmations.contains (Text.lower (trimmed (settings.textOf "LOG_SPANS" "false")))

/-- The options that the settings describe. -/
def options (settings : Settings) : Except Failure Options := do
  let retries ← settings.retries
  let backoff ← settings.retryBackoff
  let timeout ← settings.httpTimeout
  return { retries := .int retries, retryBackoff := .float backoff,
           httpTimeout := (timeout.map Value.float).getD .null }

end Settings

/-! ### Setup -/

/-- A backend that runs workflows. -/
inductive Backend where
  | inMemory
  deriving DecidableEq, Repr

/-- The name of a backend. -/
def Backend.name : Backend → String
  | .inMemory => "in_memory"

/-- The backend that a value names. -/
def Backend.ofValue (v : Value) : Except Failure Backend :=
  match v with
  | .text s =>
    if s == Backend.inMemory.name then .ok .inMemory
    else .error (.fault (.unknownBackend v))
  | _ => .error (.showing v (.fault (.unknownBackend v)))

/-- The kinds of tracers. -/
inductive TracerKind where
  | none
  | memory
  | logging
  deriving DecidableEq, Repr

/-- What a client is made of. -/
structure Setup where
  /-- The options. -/
  options : Options
  /-- The tracer. -/
  tracer : TracerKind

/-- The setup of a client.  Options that are not given come from the settings, and a tracer that is
not given is the logging one if the settings ask for it.  `backend` is a backend, or a value that
stands in its place. -/
def Setup.create (settings : Settings) (options : Option Options) (tracer : Option TracerKind)
    (backend : Except Value Backend) : Except Failure Setup := do
  let options ← match options with
    | some options => .ok options
    | none => settings.options
  let tracer := tracer.getD (if settings.logSpans then .logging else .none)
  match backend with
  | .ok .inMemory => return ⟨options, tracer⟩
  | .error v => .error (.showing v (.fault (.unsupportedBackend v)))

end Workflow
