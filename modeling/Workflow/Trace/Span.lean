import Workflow.Value.Mapping

/-!
# Spans

A span is the trace of one unit of work: its name, its attributes, and how it ended.
-/

namespace Workflow

/-- A span. -/
structure Span where
  /-- The name. -/
  name : Value
  /-- The attributes in the order in which they were first set. -/
  attributes : Rows := []
  /-- The final status, or nothing. -/
  status : Value := .null
  /-- What went wrong, or nothing. -/
  error : Value := .null
  /-- Whether the span has ended. -/
  ended : Bool := false

/-- A span that starts with attributes. -/
def Span.start (name : Value) (attributes : Rows) : Span := { name, attributes }

/-- Sets an attribute. -/
def Span.setAttribute (span : Span) (key v : Value) : Span :=
  { span with attributes := span.attributes.put key v }

/-- Ends a span. -/
def Span.finish (span : Span) (status error : Value) : Span :=
  { span with status, error, ended := true }

end Workflow
