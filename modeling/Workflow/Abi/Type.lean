import Workflow.Text.Quoted

/-!
# ABI types

The grammar of ABI type texts and the rules on their sizes:

    type  = "(" type ("," type)* ")" array* | base size? array*
    base  = letters
    size  = number | number "x" number
    array = "[" number "]" | "[]"

A number has no leading zero and is not zero.  `Ty.parse` reads a whole text.  Where it does not
fit the grammar, the position reported is the end of the longest type at the front, or, if no type
stands there, the furthest position at which a rule of the grammar was tried in vain.
-/

namespace Workflow.Abi

/-- The size behind a base name. -/
inductive Size where
  /-- No size. -/
  | none
  /-- One number. -/
  | one (n : Nat)
  /-- Two numbers. -/
  | two (n m : Nat)
  deriving DecidableEq, Repr

/-- One array suffix. -/
inductive Dimension where
  /-- An array of the given length. -/
  | sized (n : Nat)
  /-- An array of any length. -/
  | open
  deriving DecidableEq, Repr

/-- A parsed type. -/
inductive Ty where
  /-- A base type with array suffixes. -/
  | basic (base : String) (size : Size) (dims : List Dimension)
  /-- A tuple type with array suffixes. -/
  | tuple (components : List Ty) (dims : List Dimension)
  deriving Repr

/-! ### Writing -/

/-- The text of a size. -/
def Size.render : Size → String
  | .none => ""
  | .one n => toString n
  | .two n m => toString n ++ "x" ++ toString m

/-- The text of an array suffix. -/
def Dimension.render : Dimension → String
  | .sized n => "[" ++ toString n ++ "]"
  | .open => "[]"

/-- The text of array suffixes. -/
def renderDims (dims : List Dimension) : String := String.join (dims.map Dimension.render)

mutual

/-- The text of a type. -/
def Ty.render : Ty → String
  | .basic base size dims => base ++ size.render ++ renderDims dims
  | .tuple components dims =>
    "(" ++ ",".intercalate (renderAll components) ++ ")" ++ renderDims dims
termination_by structural t => t

/-- The texts of some types. -/
def renderAll : List Ty → List String
  | [] => []
  | t :: ts => t.render :: renderAll ts
termination_by structural ts => ts

end

/-! ### Reading -/

/-- The result of trying a rule: what it read with the characters behind it, if it fits, and the
least number of characters left at which a rule was tried in vain. -/
structure Trial (α : Type) where
  /-- What was read and what is left. -/
  found : Option (α × List Char)
  /-- The number of characters left at the furthest vain try. -/
  furthest : Nat

/-- Whether a character belongs to a base name. -/
def isLetter (c : Char) : Bool := c.isAlpha

/-- Reads a number without leading zero. -/
def takeNumber (cs : List Char) : Option (Nat × List Char) :=
  match cs with
  | [] => none
  | c :: _ =>
    if '1' ≤ c ∧ c ≤ '9' then
      let digits := cs.takeWhile Char.isDigit
      some (digits.foldl (fun n d => 10 * n + (d.toNat - 0x30)) 0, cs.dropWhile Char.isDigit)
    else none

/-- Reads a size; there is none where no number stands. -/
def takeSize (cs : List Char) : Trial Size :=
  match takeNumber cs with
  | none => ⟨some (.none, cs), cs.length⟩
  | some (n, 'x' :: rest) =>
    match takeNumber rest with
    | some (m, rest') => ⟨some (.two n m, rest'), cs.length⟩
    | none => ⟨some (.one n, 'x' :: rest), rest.length⟩
  | some (n, rest) => ⟨some (.one n, rest), cs.length⟩

/-- Reads array suffixes; `steps` bounds their number. -/
def takeDims : Nat → List Char → Trial (List Dimension)
  | 0, cs => ⟨some ([], cs), cs.length⟩
  | steps + 1, cs =>
    match cs with
    | '[' :: ']' :: rest =>
      let more := takeDims steps rest
      ⟨more.found.map fun (dims, left) => (.open :: dims, left), more.furthest⟩
    | '[' :: rest =>
      match takeNumber rest with
      | some (n, ']' :: rest') =>
        let more := takeDims steps rest'
        ⟨more.found.map fun (dims, left) => (.sized n :: dims, left), more.furthest⟩
      | some _ => ⟨some ([], cs), cs.length⟩
      | none => ⟨some ([], cs), rest.length⟩
    | _ => ⟨some ([], cs), cs.length⟩

mutual

/-- Reads a type; `steps` bounds the nesting. -/
def takeType (steps : Nat) (cs : List Char) : Trial Ty :=
  match steps with
  | 0 => ⟨none, cs.length⟩
  | steps + 1 =>
    match cs with
    | '(' :: rest =>
      let inner := takeComponents steps rest
      match inner.found with
      | some (components, afterTuple) =>
        let suffix := takeDims afterTuple.length afterTuple
        ⟨suffix.found.map fun (dims, left) => (.tuple components dims, left),
          min inner.furthest suffix.furthest⟩
      | none => ⟨none, inner.furthest⟩
    | _ =>
      let base := cs.takeWhile isLetter
      if base.isEmpty then ⟨none, cs.length⟩
      else
        let size := takeSize (cs.dropWhile isLetter)
        match size.found with
        | some (s, afterSize) =>
          let suffix := takeDims afterSize.length afterSize
          ⟨suffix.found.map fun (dims, left) => (.basic (String.ofList base) s dims, left),
            min size.furthest suffix.furthest⟩
        | none => ⟨none, size.furthest⟩

/-- Reads the components of a tuple up to and with the closing parenthesis. -/
def takeComponents (steps : Nat) (cs : List Char) : Trial (List Ty) :=
  match steps with
  | 0 => ⟨none, cs.length⟩
  | steps + 1 =>
    let first := takeType steps cs
    match first.found with
    | none => ⟨none, first.furthest⟩
    | some (t, ')' :: rest) => ⟨some ([t], rest), min first.furthest (rest.length + 1)⟩
    | some (t, ',' :: rest) =>
      let more := takeComponents steps rest
      ⟨more.found.map fun (ts, left) => (t :: ts, left), min first.furthest more.furthest⟩
    | some (_, rest) => ⟨none, min first.furthest rest.length⟩

end

/-- Why a text is no type. -/
structure SyntaxError where
  /-- The whole text. -/
  text : String
  /-- The number of characters in front of the trouble. -/
  position : Nat
  deriving DecidableEq, Repr

/-- The column of a position, counted within its line from one. -/
def SyntaxError.column (e : SyntaxError) : Nat :=
  ((e.text.toList.take e.position).reverse.takeWhile (· != '\n')).length + 1

/-- Reads a whole text as a type. -/
def Ty.parse (s : String) : Except SyntaxError Ty :=
  let cs := s.toList
  let trial := takeType (2 * cs.length + 1) cs
  match trial.found with
  | some (t, []) => .ok t
  | some (_, rest) => .error ⟨s, cs.length - rest.length⟩
  | none => .error ⟨s, cs.length - trial.furthest⟩

end Workflow.Abi
