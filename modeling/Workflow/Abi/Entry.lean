import Workflow.Abi.Declaration
import Workflow.Json.Reader

/-!
# Interface entries

Reading a function from its entry in a JSON interface: a map with the name and the parameters,
each of them with name, type and, for tuples, components.  `Function.ofFragment` takes all forms in
which a function is described: a declaration, an entry, the JSON text of an entry, and a list with
one function among its entries.
-/

namespace Workflow.Abi

/-- The value of a field, with nothing for a missing one. -/
def fieldOf (fields : List (String × Value)) (name : String) : Value :=
  (Fields.get? fields name).getD .null

/-- The text of a value in an entry. -/
def entryText (v : Value) : Except Failure String :=
  if v.isWritable then .ok v.plainText else .error (.fault (.numeral .tooLongToWrite))

/-- The text of a parameter's type in an entry. -/
def entryType (fields : List (String × Value)) : Except Failure String :=
  match Fields.get? fields "type" with
  | some v => entryText v
  | none => .ok ""

/-- The text of a parameter's name in an entry. -/
def entryName (fields : List (String × Value)) : Except Failure String :=
  let v := fieldOf fields "name"
  if v.isTruthy then entryText v else .ok ""

/-- The word that marks tuple types. -/
def tupleWord : String := "tuple"

/-- The fault of a value that stands where an entry should. -/
def noEntry (kind : String) : Failure := .fault (.noMember kind "get")

/-- The parameter with the given fields and the given reading of its components. -/
def Parameter.ofFields (fields : List (String × Value))
    (components : Except Failure (List Parameter)) : Except Failure Parameter := do
  let type ← entryType fields
  if startsWith tupleWord type then
    let components ← components
    let rest := type.toList.drop tupleWord.length
    return ⟨← entryName fields, tupleType components ++ String.ofList rest, components⟩
  else
    match takeElementary type.toList with
    | none => .error (.coding (.badEntryType type))
    | some (name, rest) =>
      return ⟨← entryName fields, expandAlias (String.ofList name) ++ String.ofList rest, []⟩

mutual

/-- Reads a parameter from its entry, which is a map. -/
def Parameter.ofEntry : Value → Except Failure Parameter
  | .record fields => Parameter.ofFields fields (componentsIn fields)
  | .table rows => Parameter.ofFields (Value.namedRows rows) (componentsInRows rows)
  | v => .error (noEntry v.kindName)
termination_by structural v => v

/-- Reads the components among the fields of a parameter. -/
def componentsIn : List (String × Value) → Except Failure (List Parameter)
  | [] => .ok []
  | (name, v) :: fields =>
    if name == "components" then parametersOf v else componentsIn fields
termination_by structural fields => fields

/-- Reads the components among the rows of a parameter. -/
def componentsInRows : List (Value × Value) → Except Failure (List Parameter)
  | [] => .ok []
  | (key, v) :: rows =>
    if key.text? == some "components" then parametersOf v else componentsInRows rows
termination_by structural rows => rows

/-- Reads a parameter list; a value that counts as false holds no parameters. -/
def parametersOf : Value → Except Failure (List Parameter)
  | .list vs => parametersOfItems vs
  | .tuple vs => parametersOfItems vs
  | v =>
    if v.isTruthy then
      -- The elements of everything else that has some are no entries.
      match v.elements? with
      | some (w :: _) => .error (noEntry w.kindName)
      | some [] => .ok []
      | none => .error (.fault (.notIterable v.kindName))
    else .ok []
termination_by structural v => v

/-- Reads parameters in order. -/
def parametersOfItems : List Value → Except Failure (List Parameter)
  | [] => .ok []
  | v :: vs => do
    let p ← Parameter.ofEntry v
    let ps ← parametersOfItems vs
    return p :: ps
termination_by structural vs => vs

end

/-- The failure of an entry without a function name. -/
def namelessEntry (entry : Value) : Failure := .showing entry (.coding (.namelessEntry entry))

/-- Reads a function from its entry, which is a map. -/
def Function.ofEntry (entry : Value) : Except Failure Function :=
  match entry.named? with
  | none => .error (.showing entry (.coding (.unsupportedFragment entry)))
  | some fields =>
    match fieldOf fields "name" with
    | .text name =>
      if isIdentifier name.toList then do
        let inputs ← parametersOf (fieldOf fields "inputs")
        return ⟨name, inputs⟩
      else .error (namelessEntry entry)
    | _ => .error (namelessEntry entry)

/-- Whether a value is the entry of a function; a missing kind means a function. -/
def isFunctionEntry (v : Value) : Bool :=
  match v.named? with
  | none => false
  | some fields =>
    match Fields.get? fields "type" with
    | none => true
    | some (.text kind) => kind == "function"
    | some _ => false

/-- Reads a function from a value other than a text. -/
def Function.ofValue : Value → Except Failure Function
  | .list vs =>
    match vs.filter isFunctionEntry with
    | [entry] => ofEntry entry
    | entries => .error (.coding (.functionCount entries.length))
  | v => ofEntry v

/-- Whether a text without blanks around it looks like JSON. -/
def looksLikeJson (cs : List Char) : Bool := cs.head? == some '\x7b' || cs.head? == some '['

/-- The failure of a JSON text of an entry; what stops the reader itself is a fault. -/
def fragmentFailure (e : Json.Error) : Failure :=
  if e.isInText then .coding (.fragmentNotJson e) else .fault (.json e)

/-- Reads a function from any of its descriptions. -/
def Function.ofFragment [Json.Nesting] : Value → Except Failure Function
  | .text s =>
    let t := trimmed s
    if looksLikeJson t.toList then
      match Json.decodeText t with
      | .ok v => ofValue v
      | .error e => .error (fragmentFailure e)
    else ofDeclaration t
  | v => ofValue v

end Workflow.Abi
