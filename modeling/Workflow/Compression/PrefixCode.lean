/-!
# Prefix codes from code lengths

A prefix code is a binary tree with the symbols at its leaves.  It is given by the length of each
symbol's code word alone: shorter words stand further left, and of two words of one length that of
the lesser symbol.
-/

namespace Workflow.Compression

/-- A prefix code. -/
inductive PrefixCode where
  /-- No word goes through here. -/
  | gap
  /-- A word ends here. -/
  | leaf (symbol : Nat)
  /-- Words go on with a zero or with a one. -/
  | node (zero one : PrefixCode)
  deriving Repr

namespace PrefixCode

/-- Follows bits to the end of a word, or of a place without words: the symbol and the bits behind
it.  `none` if the bits end first. -/
def read : PrefixCode → List Bool → Option (Option Nat × List Bool)
  | .gap, bits => some (none, bits)
  | .leaf symbol, bits => some (some symbol, bits)
  | .node _ _, [] => none
  | .node zero one, bit :: bits => if bit then one.read bits else zero.read bits

/-- The greatest length of a word. -/
def maxLength : Nat := 15

/-- The words still to be placed: their lengths and symbols, from left to right. -/
abbrev Words := List (Nat × Nat)

/-- Places words from left to right under a place at a depth; `below` bounds the depth under it. -/
def place (below depth : Nat) (words : Words) : PrefixCode × Words :=
  match words with
  | [] => (.gap, [])
  | (length, symbol) :: rest =>
    if length ≤ depth then (.leaf symbol, rest)
    else match below with
      | 0 => (.gap, words)
      | below + 1 =>
        let (zero, left) := place below (depth + 1) words
        let (one, left') := place below (depth + 1) left
        (.node zero one, left')
termination_by structural below

/-- The words of symbols by their lengths, from left to right; a symbol of length zero has none. -/
def wordsOf (lengths : List Nat) : Words :=
  let numbered := lengths.zipIdx
  (List.range maxLength).flatMap fun n => numbered.filter fun (length, _) => length == n + 1

/-- The share of all words of the greatest length that words take up, counted in such words. -/
def volume (words : Words) : Nat :=
  words.foldl (fun taken (length, _) => taken + Nat.pow 2 (maxLength - length)) 0

/-- The code with the given lengths.  Words may not take up more than there is, nor less, except
that a single word of length one is let through if `loose`.  Without any words every bit leads to
`idle`. -/
def ofLengths? (loose : Bool) (idle : PrefixCode) (lengths : List Nat) : Option PrefixCode :=
  let words := wordsOf lengths
  if words.isEmpty then some (.node idle idle)
  else if volume words = Nat.pow 2 maxLength || (loose && words.map (·.1) == [1]) then
    some (place maxLength 0 words).1
  else none

end PrefixCode

end Workflow.Compression
