import Workflow.Options
import Workflow.Value.Mapping

/-!
# The context of a run

A context holds what the caller supplied, the time at which the run started with the deadlines
counted from it, and the recorded outputs.  Outputs are only ever added: a key is written once and
keeps its value.
-/

namespace Workflow

/-- The context of a run. -/
structure Context where
  /-- What the caller supplied. -/
  params : RunParams
  /-- The input of the workflow. -/
  input : Value
  /-- The start of the run in whole seconds. -/
  timestamp : Int
  /-- The near deadline. -/
  deadline : Value
  /-- The middle deadline. -/
  deadlineHour : Value
  /-- The far deadline. -/
  deadlineDay : Value
  /-- What has been recorded under step ids and aliases, in order. -/
  outputs : List (String × Value) := []

namespace Context

/-- The context at the start of a run. -/
def start (params : RunParams) (options : Options) (now : Value) : Except Failure Context := do
  let timestamp ← now.whole
  let input ← (mappingOf params.input).mapError fun e => .fault (.mapping e)
  let deadline ← options.deadlineOffset.addedTo timestamp
  let deadlineHour ← options.deadlineHourOffset.addedTo timestamp
  let deadlineDay ← options.deadlineDayOffset.addedTo timestamp
  return ⟨params, input.toValue, timestamp, deadline, deadlineHour, deadlineDay, []⟩

/-- Everything in the context by name. -/
def root (c : Context) : List (String × Value) :=
  [("wallet", c.params.wallet), ("chainId", c.params.chainId), ("sessionId", c.params.sessionId),
    ("sessionKeyAddress", c.params.sessionKeyAddress), ("timestamp", .int c.timestamp),
    ("input", c.input), ("steps", .record c.outputs),
    ("computed", .record [("deadline", c.deadline),
      ("deadlineHour", c.deadlineHour), ("deadlineDay", c.deadlineDay)]),
    ("session", .record [("id", c.params.sessionId),
      ("keyAddress", c.params.sessionKeyAddress)])]

/-- Whether something has been recorded under a key. -/
def isRecorded (c : Context) (key : String) : Bool := Fields.contains c.outputs key

/-- Adds an entry under a key that has none. -/
def record (c : Context) (key : String) (entry : Value) : Except Fault Context :=
  if c.isRecorded key then .error (.keyTaken key)
  else .ok { c with outputs := c.outputs ++ [(key, entry)] }

/-- The entry of an output. -/
def outputEntry (output : Value) : Value := .record [("output", output)]

/-- Records an output. -/
def recordOutput (c : Context) (key : String) (output : Value) : Except Fault Context :=
  c.record key (outputEntry output)

/-- Records that a step was skipped. -/
def recordSkipped (c : Context) (key : String) : Except Fault Context := c.record key .null

/-- What has been recorded under a key; nothing is recorded under a key that is no text. -/
def recorded (c : Context) (key : Value) : Except Fault Value :=
  match key.text?.bind (Fields.get? c.outputs), changeableKind? key with
  | some v, _ => .ok v
  | none, some kind => .error (.mapping (.unhashable kind))
  | none, none => .error (.missingKey key)

end Context

end Workflow
