import Workflow.Hash.Keccak
import Workflow.Text.Hex
import Workflow.Text.Utf8

/-!
# Contract functions

A function is its name and its parameters.  Its signature names the types of the parameters, and
its selector is the first four bytes of the signature's hash.
-/

namespace Workflow.Abi

/-- A parameter: its name, which may be empty, the text of its type, and for tuples the
components. -/
structure Parameter where
  /-- The name. -/
  name : String
  /-- The text of the type. -/
  type : String
  /-- The components of a tuple. -/
  components : List Parameter
  deriving BEq, Repr

/-- A contract function. -/
structure Function where
  /-- The name. -/
  name : String
  /-- The parameters in order. -/
  inputs : List Parameter
  deriving BEq, Repr

/-- The type text of a tuple with the given components. -/
def tupleType (components : List Parameter) : String :=
  "(" ++ ",".intercalate (components.map (·.type)) ++ ")"

/-- The signature. -/
def Function.signature (f : Function) : String := f.name ++ tupleType f.inputs

/-- The bytes of the selector; spaces in the signature do not count. -/
def Function.selectorBytes (f : Function) : List UInt8 :=
  (Keccak.hash (Utf8.encode (String.ofList (f.signature.toList.filter (· != ' '))))).take 4

/-- The selector as text. -/
def Function.selector (f : Function) : String := Hex.ofBytes f.selectorBytes

/-! ### Names -/

/-- Whether a text starts with another. -/
def startsWith (lead s : String) : Bool := lead.toList.isPrefixOf s.toList

/-- Whether a character may start an identifier. -/
def isIdentifierStart (c : Char) : Bool := c.isAlpha || c == '_' || c == '$'

/-- Whether a character may stand in an identifier. -/
def isIdentifierPart (c : Char) : Bool := c.isAlphanum || c == '_' || c == '$'

/-- The identifier at the front, and what follows it. -/
def takeIdentifier : List Char → Option (List Char × List Char)
  | c :: cs =>
    if isIdentifierStart c then
      some (c :: cs.takeWhile isIdentifierPart, cs.dropWhile isIdentifierPart)
    else none
  | [] => none

/-- Whether a text is an identifier. -/
def isIdentifier : List Char → Bool
  | c :: cs => isIdentifierStart c && cs.all isIdentifierPart
  | [] => false

/-- The name of an elementary type at the front, and what follows it. -/
def takeElementary : List Char → Option (List Char × List Char)
  | c :: cs =>
    if c.isAlpha then some (c :: cs.takeWhile Char.isAlphanum, cs.dropWhile Char.isAlphanum)
    else none
  | [] => none

/-- The full name of an elementary type. -/
def expandAlias (name : String) : String :=
  if name = "uint" then "uint256"
  else if name = "int" then "int256"
  else if name = "byte" then "bytes1"
  else name

end Workflow.Abi
