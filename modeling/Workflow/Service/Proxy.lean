import Workflow.Json.Reader
import Workflow.Service.Basic
import Workflow.Shape

/-!
# Stored endpoints
-/

namespace Workflow

open Shape (Reading Setter)

/-- The fields of a stored endpoint. -/
def ProxyRecord.setter : Setter ProxyRecord
  | "targetUrl" => some fun p v => return { p with targetUrl := .text (← Shape.text v) }
  | "httpMethod" => some fun p v => return { p with httpMethod := .text (← Shape.text v) }
  | "encryptedHeaders" => some fun p v => .ok { p with encryptedHeaders := v }
  | _ => none

/-- Reads a stored endpoint; fields that are not declared are ignored. -/
def ProxyRecord.ofValue? : Value → Reading ProxyRecord :=
  Shape.record false ["targetUrl"] setter ⟨.null, .text "GET", .null⟩

/-- The wire form of a stored endpoint. -/
def ProxyRecord.toValue (p : ProxyRecord) : Value :=
  .record [("targetUrl", p.targetUrl), ("httpMethod", p.httpMethod),
    ("encryptedHeaders", p.encryptedHeaders)]

/-- The failure of a text that is no JSON value. -/
def jsonFailure (e : Json.Error) : Failure := .fault (.json e)

/-- The texts of headers; an integer that is too long has none. -/
def headerTexts (fields : List (String × Value)) : Except Failure (List (String × String)) :=
  if Value.fieldsWritable fields then .ok (fields.map fun (name, v) => (name, v.plainText))
  else .error (.fault (.numeral .tooLongToWrite))

/-- The texts of headers whose names are values of any kind; of two names with the same text the
later value counts, at the earlier place. -/
def rowTexts (rows : List (Value × Value)) : Except Failure (List (String × String)) :=
  if Value.rowsWritable rows then
    .ok (Fields.ofPairs (rows.map fun (key, v) => (key.plainText, v.plainText)))
  else .error (.fault (.numeral .tooLongToWrite))

/-- Headers that are stored in plain form: a record, rows, or the JSON text of a record. -/
def plainHeaders [Json.Nesting] (stored : Value) : Except Failure (List (String × String)) := do
  let v ← match stored with
    | .text s => (Json.decodeText s).mapError jsonFailure
    | .bytes bs => (Json.decode bs).mapError jsonFailure
    | v => .ok v
  match v with
  | .record fields => headerTexts fields
  | .table rows => rowTexts rows
  | v => .error (.fault (.noMember v.kindName "items"))

end Workflow
