import Workflow.Text.Blank
import Workflow.Text.Digit

/-!
# The path language

An expression is a text that consists of `$.` and a path:

    path  = key ("." key | "[" digit+ "]")*

A key has at least one character and holds no blanks, points and brackets.  Digits may be of any
script.
-/

namespace Workflow

/-- One segment of a path. -/
inductive Segment where
  /-- To a field. -/
  | key (name : List Char)
  /-- To an item; the digits of its index. -/
  | index (digits : List Char)
  deriving DecidableEq, Repr

/-- A path: the name of a part of the context and the way on from there. -/
structure Path where
  /-- The first key. -/
  head : List Char
  /-- The segments behind it. -/
  tail : List Segment
  deriving DecidableEq, Repr

namespace Path

/-- Whether a character may stand in a key. -/
def isKeyChar (c : Char) : Bool :=
  !Text.isBlank c && c != '.' && c != '[' && c != ']'

/-! ### Writing -/

/-- The text of a segment. -/
def renderSegment : Segment → List Char
  | .key name => '.' :: name
  | .index digits => '[' :: (digits ++ [']'])

/-- The text of an expression. -/
def render (p : Path) : List Char := '$' :: '.' :: (p.head ++ p.tail.flatMap renderSegment)

/-! ### Reading -/

/-- Reads segments up to the end of a text; `steps` bounds their number. -/
def readSegments : Nat → List Char → Option (List Segment)
  | _, [] => some []
  | 0, _ => none
  | steps + 1, c :: cs =>
    if c == '.' then
      let name := cs.takeWhile isKeyChar
      if name.isEmpty then none
      else (readSegments steps (cs.dropWhile isKeyChar)).map (.key name :: ·)
    else if c == '[' then
      let digits := cs.takeWhile Text.isDigit
      match cs.dropWhile Text.isDigit with
      | d :: rest =>
        if d == ']' && !digits.isEmpty then (readSegments steps rest).map (.index digits :: ·)
        else none
      | [] => none
    else none

/-- Reads an expression. -/
def parse : List Char → Option Path
  | '$' :: '.' :: cs =>
    let name := cs.takeWhile isKeyChar
    if name.isEmpty then none
    else
      let rest := cs.dropWhile isKeyChar
      (readSegments rest.length rest).map (⟨name, ·⟩)
  | _ => none

end Path

end Workflow
