import Workflow.Decimal.Places
import Workflow.Trace.Span
import Workflow.Value.Display

/-!
# Spans as log records

A tracer that writes a log record when a span starts and one when it ends, the latter with the time
that the span took.
-/

namespace Workflow

/-- The severity of a log record. -/
inductive Level where
  | debug
  | info
  | warning
  | error
  | critical
  deriving DecidableEq, Repr

/-- The name of a severity. -/
def Level.name : Level → String
  | .debug => "DEBUG"
  | .info => "INFO"
  | .warning => "WARNING"
  | .error => "ERROR"
  | .critical => "CRITICAL"

/-- The severities in increasing order. -/
def Level.all : List Level := [.debug, .info, .warning, .error, .critical]

/-- The rank of a severity. -/
def Level.rank : Level → Nat
  | .debug => 0
  | .info => 1
  | .warning => 2
  | .error => 3
  | .critical => 4

/-- The severity of a name. -/
def Level.ofName? (name : String) : Option Level := Level.all.find? (·.name == name)

/-- A log record. -/
structure LogRecord where
  /-- The severity. -/
  level : Level
  /-- The message. -/
  message : String
  /-- The structured part, if there is one. -/
  fields : Option Rows := none

/-- Whether a record is written when records below a severity are not. -/
def LogRecord.isAtLeast (least : Level) (r : LogRecord) : Bool := least.rank ≤ r.level.rank

/-- A span whose end is logged. -/
structure TimedSpan where
  /-- The span. -/
  span : Span
  /-- When it started, in seconds. -/
  started : Float

namespace TimedSpan

/-- The record of the start of a span. -/
def startRecord (name : Value) : LogRecord :=
  ⟨.debug, "Step " ++ name.plainText ++ " started", none⟩

/-- The time in milliseconds that a span took until `now`. -/
def duration (t : TimedSpan) (now : Float) : Float := (now - t.started) * 1000

/-- The structured part of the record of an end: the attributes replace what they name, and an
error replaces an attribute of that name. -/
def endFields (t : TimedSpan) (now : Float) (status error : Value) : Rows :=
  let base : Rows := [(.text "span", t.span.name), (.text "status", status),
    (.text "duration_ms", .float (Decimal.roundToPlaces 3 (t.duration now)))]
  let fields := t.span.attributes.foldl (fun rows (key, v) => rows.put key v) base
  if error.isNull then fields else fields.put (.text "error") error

/-- The record of the end of a span. -/
def endRecord (t : TimedSpan) (now : Float) (status error : Value) : LogRecord :=
  let message := "Step " ++ t.span.name.plainText ++ " " ++ status.plainText ++ " in "
    ++ Decimal.fixedPlaces 1 (t.duration now) ++ "ms"
  let fields := some (t.endFields now status error)
  if error.isNull then ⟨.info, message, fields⟩
  else ⟨.warning, message ++ ": " ++ error.plainText, fields⟩

end TimedSpan

end Workflow
