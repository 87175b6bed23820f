import Workflow.Abi.Entry
import Workflow.Address
import Workflow.Text.Case
import Workflow.Word

/-!
# Arguments by name

The arguments of a call are a record with one value per parameter.  They are brought into the order
of the parameters and converted to the parameters' types: integers and truth values may be given as
text, bytes as hexadecimal text, tuples as records.  `Function.encodeCall` is the selector followed
by the encoded arguments.
-/

namespace Workflow.Abi

/-! ### Array types -/

/-- A type text taken apart at its array suffixes, the last suffix outermost. -/
inductive Layers where
  /-- No array. -/
  | base (type : String)
  /-- An array; `type` is the whole text. -/
  | array (type : String) (item : Layers)
  /-- A closing bracket without an opening one; `type` is the whole text. -/
  | stray (type : String)
  deriving Repr

/-- Takes apart a type text given in reverse; `steps` bounds the number of suffixes. -/
def layersOfReverse : Nat → List Char → Layers
  | 0, cs => .base (String.ofList cs.reverse)
  | steps + 1, cs =>
    if cs.head? == some ']' then
      match cs.dropWhile (· != '[') with
      | _ :: item => .array (String.ofList cs.reverse) (layersOfReverse steps item)
      | [] => .stray (String.ofList cs.reverse)
    else .base (String.ofList cs.reverse)

/-- Takes apart a type text. -/
def Layers.ofType (type : String) : Layers :=
  layersOfReverse (type.length + 1) type.toList.reverse

/-! ### Single values -/

/-- The truth value that a text denotes. -/
def truthOfText? (s : String) : Option Bool :=
  let t := Text.lower (trimmed s)
  if t = "true" || t = "1" then some true
  else if t = "false" || t = "0" then some false
  else none

/-- Converts a truth value. -/
def coerceTruth (label : String) (v : Value) : Except Failure Value :=
  let found : Option Bool := match v with
    | .text s => truthOfText? s
    | .bool b => some b
    | .int n => if n = 0 then some false else if n = 1 then some true else none
    | _ => none
  match found with
  | some b => .ok (.bool b)
  | none => .error (.showing v (.coding (.notBoolean label v)))

/-- Converts an address. -/
def coerceAddress (label : String) (v : Value) : Except Failure Value :=
  match v with
  | .text s =>
    if isAddress s then .ok (.text (Text.lower s)) else .error (.coding (.notAddress label v))
  | _ => .error (.showing v (.coding (.notAddress label v)))

/-- What messages call an argument. -/
def argumentLabel (label : String) : String := "argument '" ++ label ++ "'"

/-- Converts a value to a type that is neither array nor tuple; a value of a type without a rule
stays as it is. -/
def coerceElementary (type label : String) (v : Value) : Except Failure Value :=
  if startsWith "uint" type || startsWith "int" type then
    (integer (argumentLabel label) v).map .int
  else if type = "bool" then coerceTruth label v
  else if type = "address" then coerceAddress label v
  else if startsWith "bytes" type then (hexBytes (argumentLabel label) v).map .bytes
  else .ok v

/-! ### Arrays and tuples -/

/-- Converts items in order; `index` is the index of the first. -/
def coerceItems (item : String → Value → Except Failure Value) (label : String) (index : Nat) :
    List Value → Except Failure (List Value)
  | [] => .ok []
  | v :: vs => do
    let w ← item (label ++ "[" ++ toString index ++ "]") v
    let ws ← coerceItems item label (index + 1) vs
    return w :: ws

/-- Converts an array, given how a value is converted to the type without array suffixes. -/
def Layers.coerce (base : String → String → Value → Except Failure Value) :
    Layers → String → Value → Except Failure Value
  | .base type, label, v => base type label v
  | .array type item, label, v =>
    match v.items? with
    | some vs => (coerceItems (item.coerce base) label 0 vs).map .list
    | none => .error (.coding (.notArray label type))
  | .stray type, label, v =>
    match v.items? with
    | some _ => .error (.fault .noBracket)
    | none => .error (.coding (.notArray label type))

/-- The values of a tuple's components: those of a record by name, those of a list in order. -/
def componentValues (components : List Parameter) (label : String) (v : Value) :
    Except Failure (List Value) :=
  match v.named? with
  | some fields =>
    match components.find? fun c => (fieldOf fields c.name).isNull with
    | some c => .error (.missingArgument (label ++ "." ++ c.name) none)
    | none => .ok (components.map fun c => fieldOf fields c.name)
  | none =>
    match v.items? with
    | some vs =>
      if vs.length = components.length then .ok vs
      else .error (.coding (.notTuple label components.length))
    | none => .error (.coding (.notTuple label components.length))

/-- What messages call a component: its name, or its index where it has none. -/
def componentLabel (label name : String) (index : Nat) : String :=
  label ++ "." ++ (if name.isEmpty then toString index else name)

mutual

/-- Converts a value to the type of a parameter. -/
def Parameter.coerce (p : Parameter) (label : String) (v : Value) : Except Failure Value :=
  match p with
  | ⟨_, type, components⟩ =>
    (Layers.ofType type).coerce
      (fun base l w =>
        if startsWith "(" base then
          match componentValues components l w with
          | .error e => .error e
          | .ok vs => (coerceComponents components l 0 vs).map .tuple
        else coerceElementary base l w)
      label v
termination_by structural p

/-- Converts the values of a tuple's components in order; `index` is the index of the first. -/
def coerceComponents (components : List Parameter) (label : String) (index : Nat)
    (vs : List Value) : Except Failure (List Value) :=
  match components with
  | [] => .ok []
  | c :: cs =>
    match vs with
    | [] => .ok []
    | v :: vs => do
      let w ← c.coerce (componentLabel label c.name index) v
      let ws ← coerceComponents cs label (index + 1) vs
      return w :: ws
termination_by structural components

end

/-! ### Calls -/

/-- The key under which the argument of a parameter is given: its name, or its index where it has
none. -/
def Parameter.key (p : Parameter) (index : Nat) : String :=
  if p.name.isEmpty then toString index else p.name

/-- The arguments of the parameters from the one with index `index` on. -/
def orderFrom (name : String) (args : List (String × Value)) (index : Nat) :
    List Parameter → Except Failure (List Value)
  | [] => .ok []
  | p :: ps => do
    let key := p.key index
    let v := fieldOf args key
    if v.isNull then .error (.missingArgument key (some name))
    else
      let w ← p.coerce key v
      let ws ← orderFrom name args (index + 1) ps
      return w :: ws

/-- The arguments in the order of the parameters, converted to their types. -/
def Function.orderArguments (f : Function) (args : Value) : Except Failure (List Value) :=
  match args.named? with
  | some fields => orderFrom f.name fields 0 f.inputs
  | none => if f.inputs.isEmpty then .ok [] else .error (noEntry args.kindName)

/-- The bytes of a call. -/
def Function.encodeCall (f : Function) (args : Value) : Except Failure (List UInt8) := do
  let vs ← f.orderArguments args
  match encode (f.inputs.map (·.type)) vs with
  | .ok bs => return f.selectorBytes ++ bs
  | .error e => .error (.coding (.argumentsRefused f.signature e))

/-- Checks that a selector, if given, is that of a function. -/
def Function.checkSelector (f : Function) : Value → Except Failure Unit
  | .null => .ok ()
  | v => do
    let written ← hexText "selector" v
    if Text.lower written = f.selector then return ()
    else .error (.coding (.selectorMismatch v.plainText f.signature f.selector))

/-- The text of a call, from any description of the function and an optional selector. -/
def calldata [Json.Nesting] (fragment args selector : Value) : Except Failure String := do
  let f ← Function.ofFragment fragment
  f.checkSelector selector
  return Hex.ofBytes (← f.encodeCall args)

end Workflow.Abi
