import Workflow.Failure.Basic
import Workflow.Json.Reader

/-!
# Loading definitions

A definition is loaded from its JSON text or from the value that the text denotes.  Only a
definition without any breach of the structural rules is loaded.
-/

namespace Workflow

/-- The failure of a definition with problems. -/
def invalidDefinition (errors : List String) : Failure := .invalid "Invalid workflow" errors

/-- The failure of a JSON text of a definition; what stops the reader itself is a fault. -/
def definitionTextFailure (e : Json.Error) : Failure :=
  if e.isInText then invalidDefinition ["Malformed workflow JSON: " ++ e.message]
  else .fault (.json e)

/-- The value that a source denotes: that of a JSON text, and of anything else itself. -/
def definitionValue [Json.Nesting] : Value → Except Failure Value
  | .text s => (Json.decodeText s).mapError definitionTextFailure
  | .bytes bs => (Json.decode bs).mapError definitionTextFailure
  | v => .ok v

/-- A definition, if it has no breach. -/
def Definition.accept (d : Definition) (version : Value) : Except Failure Definition :=
  let report := d.check version
  if report.valid then .ok d else .error (invalidDefinition report.errors)

/-- Loads a definition. -/
def Definition.load [Json.Nesting] (source version : Value) : Except Failure Definition := do
  let v ← definitionValue source
  match Definition.ofValue? v with
  | .ok d => d.accept version
  | .error m => .error (invalidDefinition [(Flaw.malformed m).message])

end Workflow
