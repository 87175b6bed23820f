import Workflow.Yaml.Plain

/-!
# Styles of YAML scalars

A text is written plain where that is read back as the same text, else in single quotes, and in
double quotes where it holds characters that need escapes.
-/

namespace Workflow.Yaml

/-- The style of a scalar. -/
inductive Style where
  | plain
  | single
  | double
  deriving DecidableEq, Repr

/-- Whether a character ends a line. -/
def isBreak (c : Char) : Bool :=
  c == '\n' || c == '\r' || c.toNat == 0x85 || c.toNat == 0x2028 || c.toNat == 0x2029

/-- Whether a character needs no escape. -/
def isVerbatim (c : Char) : Bool :=
  let n := c.toNat
  n == 0x0A || (0x20 ≤ n && n ≤ 0x7E) || (0xA0 ≤ n && n ≤ 0xD7FF)
    || (0xE000 ≤ n && n ≤ 0xFFFD && n != 0xFEFF)

/-- Whether what follows a place is white space or the end. -/
def blankNext : List Char → Bool
  | [] => true
  | c :: _ => c == ' ' || c == '\t' || c.toNat == 0 || isBreak c

/-- The characters that cannot start a plain scalar. -/
def startIndicators : List Char :=
  ['#', ',', '[', ']', '\x7b', '\x7d', '&', '*', '!', '|', '>', '\'', '"', '%', '@', '\x60']

/-- Whether a plain scalar cannot start with the characters. -/
def badStart : List Char → Bool
  | [] => false
  | c :: rest =>
    startIndicators.contains c || ((c == '?' || c == ':' || c == '-') && blankNext rest)

/-- Whether characters inside a plain scalar would end it: a colon in front of white space or a
number sign behind it. -/
def badInside (blankBefore : Bool) : List Char → Bool
  | [] => false
  | c :: rest =>
    (c == ':' && blankNext rest) || (c == '#' && blankBefore)
      || badInside (blankNext [c]) rest

/-- Whether the characters start like a document mark. -/
def marksDocument : List Char → Bool
  | '-' :: '-' :: '-' :: _ => true
  | '.' :: '.' :: '.' :: _ => true
  | _ => false

/-- Whether a space and a line break stand next to each other in this order. -/
def spaceThenBreak : List Char → Bool
  | a :: b :: rest => (a == ' ' && isBreak b) || spaceThenBreak (b :: rest)
  | _ => false

/-- Whether a line break and a space stand next to each other in this order. -/
def breakThenSpace : List Char → Bool
  | a :: b :: rest => (isBreak a && b == ' ') || breakThenSpace (b :: rest)
  | _ => false

/-- Whether a character is a space or ends a line. -/
def isSpaceOrBreak (c : Char) : Bool := c == ' ' || isBreak c

/-- Whether the characters may be written plain. -/
def plainAllowed (cs : List Char) : Bool :=
  match cs with
  | [] => true
  | c :: rest =>
    !marksDocument cs && !badStart cs && !badInside (blankNext [c]) rest
      && cs.all isVerbatim && !cs.any isBreak
      && !isSpaceOrBreak c && !(cs.getLast?.any isSpaceOrBreak)

/-- Whether the characters may be written in single quotes. -/
def singleAllowed (cs : List Char) : Bool :=
  cs.all isVerbatim && !spaceThenBreak cs && !breakThenSpace cs

/-- Whether the characters go over several lines. -/
def isMultiline (cs : List Char) : Bool := cs.any isBreak

/-- The style of a text; `asKey` if it is written in front of a colon on one line. -/
def styleOf (asKey : Bool) (s : String) : Style :=
  let cs := s.toList
  if asKey && isMultiline cs then .double
  else if plainAllowed cs && readsAsText s && !(cs.isEmpty && asKey) then .plain
  else if singleAllowed cs then .single
  else .double

end Workflow.Yaml
