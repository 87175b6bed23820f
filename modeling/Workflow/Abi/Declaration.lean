import Workflow.Abi.Function
import Workflow.Failure.Basic

/-!
# Function declarations

Reading a function from its declaration in the style of the contract language:

    declaration = ["function"] name "(" [parameter ("," parameter)*] ")" anything
    parameter   = type array* qualifier* [name] qualifier*
    type        = elementary | ["tuple"] "(" [parameter ("," parameter)*] ")"
    array       = "[" digit* "]"

Blanks may surround parameters.  A parameter list is cut at the parenthesis that closes it and then
at the commas that stand in no inner list; both cuts keep every character.
-/

namespace Workflow.Abi

/-! ### Cutting -/

/-- What stands in front of the parenthesis that closes a group, and what follows it; `depth` inner
groups are open. -/
def takeGroup (depth : Nat) : List Char → Option (List Char × List Char)
  | [] => none
  | c :: cs =>
    if c == ')' then
      match depth with
      | 0 => some ([], cs)
      | outer + 1 => (takeGroup outer cs).map fun (inner, rest) => (c :: inner, rest)
    else
      (takeGroup (if c == '(' then depth + 1 else depth) cs).map
        fun (inner, rest) => (c :: inner, rest)

/-- The group at the front of a text that starts with a parenthesis, and what follows it; the text
is part of the declaration `whole`. -/
def splitGroup (whole : String) : List Char → Except Failure (List Char × List Char)
  | '(' :: cs =>
    match takeGroup 0 cs with
    | some group => .ok group
    | none => .error (.coding (.unbalanced whole))
  | _ => .error (.coding (.unbalanced whole))

/-- The parts between the commas that stand in no group; so far `depth` more groups were opened than
closed, and `part` is the part in progress, last character first. -/
def splitCommas (depth : Int) (part : List Char) : List Char → List (List Char)
  | [] => [part.reverse]
  | c :: cs =>
    if c == ',' && depth == 0 then part.reverse :: splitCommas 0 [] cs
    else if c == '(' then splitCommas (depth + 1) (c :: part) cs
    else if c == ')' then splitCommas (depth - 1) (c :: part) cs
    else splitCommas depth (c :: part) cs

/-- The parameters in a parameter list, without the blanks around them. -/
def splitParameters (cs : List Char) : List (List Char) :=
  if cs.all Text.isBlank then [] else (splitCommas 0 [] cs).map Text.trim

/-- The array suffixes at the front, and what follows them; `steps` bounds their number. -/
def takeArrays : Nat → List Char → List Char × List Char
  | 0, cs => ([], cs)
  | steps + 1, cs =>
    match cs with
    | '[' :: rest =>
      match rest.dropWhile Text.isDigit with
      | ']' :: rest' =>
        let (arrays, left) := takeArrays steps rest'
        ('[' :: rest.takeWhile Text.isDigit ++ ']' :: arrays, left)
      | _ => ([], cs)
    | _ => ([], cs)

/-! ### Parameters -/

/-- The words that may stand between the type and the name of a parameter. -/
def qualifiers : List String := ["memory", "calldata", "storage", "indexed", "payable"]

/-- Forms a parameter from its type without array suffixes and what follows that; `text` is the
parameter and `whole` the declaration. -/
def finishParameter (whole : String) (text : List Char) (base : String)
    (components : List Parameter) (rest : List Char) : Except Failure Parameter :=
  let (arrays, left) := takeArrays rest.length rest
  let names := ((Text.words left).map String.ofList).filter (!qualifiers.contains ·)
  match names with
  | [] => .ok ⟨"", base ++ String.ofList arrays, components⟩
  | [name] => .ok ⟨name, base ++ String.ofList arrays, components⟩
  | _ => .error (.coding (.badParameter (String.ofList text) whole))

/-- A tuple type less the word `tuple` in front of it. -/
def withoutTupleWord : List Char → List Char
  | 't' :: 'u' :: 'p' :: 'l' :: 'e' :: '(' :: rest => '(' :: rest
  | cs => cs

mutual

/-- Reads a parameter of the declaration `whole`; `steps` bounds the nesting. -/
def parseParameter (whole : String) (steps : Nat) (text : List Char) :
    Except Failure Parameter :=
  match steps with
  | 0 => .error (.coding (.emptyParameter whole))
  | steps + 1 =>
    if text.isEmpty then .error (.coding (.emptyParameter whole))
    else
      let body := withoutTupleWord text
      if body.head? == some '(' then do
        let (inner, rest) ← splitGroup whole body
        let components ← parseParameters whole steps (splitParameters inner)
        finishParameter whole body (tupleType components) components rest
      else
        match takeElementary body with
        | none => .error (.coding (.untypedParameter (String.ofList body) whole))
        | some (name, rest) =>
          finishParameter whole body (expandAlias (String.ofList name)) [] rest
termination_by structural steps

/-- Reads some parameters of the declaration `whole`. -/
def parseParameters (whole : String) (steps : Nat) (texts : List (List Char)) :
    Except Failure (List Parameter) :=
  match steps with
  | 0 => if texts.isEmpty then .ok [] else .error (.coding (.emptyParameter whole))
  | steps + 1 => texts.mapM (parseParameter whole steps)
termination_by structural steps

end

/-! ### Declarations -/

/-- A declaration less the word `function` and the blanks behind it. -/
def withoutFunctionWord : List Char → List Char
  | 'f' :: 'u' :: 'n' :: 'c' :: 't' :: 'i' :: 'o' :: 'n' :: c :: rest =>
    if Text.isBlank c then Text.trimStart rest
    else 'f' :: 'u' :: 'n' :: 'c' :: 't' :: 'i' :: 'o' :: 'n' :: c :: rest
  | cs => cs

/-- Reads a declaration. -/
def Function.ofDeclaration (whole : String) : Except Failure Function :=
  match takeIdentifier (withoutFunctionWord (Text.trim whole.toList)) with
  | none => .error (.coding (.badDeclaration whole))
  | some (name, afterName) =>
    let list := Text.trimStart afterName
    if list.head? == some '(' then do
      let (inner, _) ← splitGroup whole list
      let inputs ← parseParameters whole (2 * list.length) (splitParameters inner)
      return ⟨String.ofList name, inputs⟩
    else .error (.coding (.badDeclaration whole))

end Workflow.Abi
