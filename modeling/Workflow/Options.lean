import Workflow.Number

/-!
# Options of a run
-/

namespace Workflow

/-- What can be tuned about a run. -/
structure Options where
  /-- The number of further attempts at a step that may be retried. -/
  retries : Value := .int 2
  /-- The pause in seconds before the first further attempt; it doubles each time. -/
  retryBackoff : Value := .float 0.1
  /-- The time in seconds that a request may take, or nothing if it is not limited. -/
  httpTimeout : Value := .float 30
  /-- The version of definitions that is accepted. -/
  supportedVersion : Value := .text Workflow.supportedVersion
  /-- The seconds from the start of the run to the near deadline. -/
  deadlineOffset : Value := .int 300
  /-- The seconds from the start of the run to the middle deadline. -/
  deadlineHourOffset : Value := .int 3600
  /-- The seconds from the start of the run to the far deadline. -/
  deadlineDayOffset : Value := .int 86400

/-- What the caller of a run supplies. -/
structure RunParams where
  /-- The wallet that acts. -/
  wallet : Value
  /-- The chain that the wallet lives on. -/
  chainId : Value
  /-- The session under which transactions are submitted. -/
  sessionId : Value
  /-- The address of the session's key. -/
  sessionKeyAddress : Value
  /-- The input of the workflow. -/
  input : Value := .null

end Workflow
