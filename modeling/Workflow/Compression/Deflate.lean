import Workflow.Compression.Flaw
import Workflow.Compression.PrefixCode

/-!
# Deflated data

Deflated data is a sequence of blocks, each of them stored or written with two prefix codes: one for
literal bytes and the lengths of matches, one for the distances of matches in the output so far.
Reading goes on until the last block ends, a flaw is found, or the data ends too early; the output
read until then is kept in each case.
-/

namespace Workflow.Compression

/-- Why reading stops. -/
inductive Stop where
  /-- The data ends too early. -/
  | short
  /-- The data has a flaw. -/
  | flawed (flaw : Flaw)
  deriving DecidableEq, Repr

/-- The bits still to be read and the output so far. -/
structure Progress where
  /-- The bits still to be read, the least of each byte first. -/
  bits : List Bool
  /-- The output so far. -/
  output : Array UInt8 := #[]

/-- Reading compressed data. -/
abbrev Inflating := ExceptT Stop (StateM Progress)

namespace Inflating

/-- Stops at a flaw. -/
def refuse {α : Type} (flaw : Flaw) : Inflating α := throw (.flawed flaw)

/-- The number that bits denote, the least first. -/
def valueOf (bits : List Bool) : Nat := bits.foldr (fun b n => 2 * n + b.toNat) 0

/-- Reads a number of `n` bits. -/
def number (n : Nat) : Inflating Nat := do
  let p ← get
  let taken := p.bits.take n
  if taken.length < n then throw .short
  set { p with bits := p.bits.drop n }
  return valueOf taken

/-- Drops the bits up to the next byte. -/
def align : Inflating Unit := modify fun p => { p with bits := p.bits.drop (p.bits.length % 8) }

/-- Adds a byte to the output. -/
def emit (b : UInt8) : Inflating Unit := modify fun p => { p with output := p.output.push b }

/-- Reads a symbol; `flaw` is that of a word that no symbol has. -/
def symbol (code : PrefixCode) (flaw : Flaw) : Inflating Nat := do
  let p ← get
  match code.read p.bits with
  | none => throw .short
  | some (found, bits) =>
    set { p with bits }
    match found with
    | some s => return s
    | none => refuse flaw

/-! ### Stored blocks -/

/-- Copies `n` bytes to the output. -/
def copyStored : Nat → Inflating Unit
  | 0 => return ()
  | n + 1 => do
    emit (UInt8.ofNat (← number 8))
    copyStored n

/-- Reads a stored block. -/
def storedBlock : Inflating Unit := do
  align
  let lengths ← number 32
  let length := lengths % 65536
  if length + lengths / 65536 ≠ 65535 then refuse .storedLength
  copyStored length

/-! ### Blocks with codes -/

/-- The least match length and the number of further bits for each symbol from 257 on. -/
def matchLengths : List (Nat × Nat) := [
  (3, 0), (4, 0), (5, 0), (6, 0), (7, 0), (8, 0), (9, 0), (10, 0), (11, 1), (13, 1), (15, 1),
  (17, 1), (19, 2), (23, 2), (27, 2), (31, 2), (35, 3), (43, 3), (51, 3), (59, 3), (67, 4),
  (83, 4), (99, 4), (115, 4), (131, 5), (163, 5), (195, 5), (227, 5), (258, 0)]

/-- The least distance and the number of further bits for each symbol. -/
def distances : List (Nat × Nat) := [
  (1, 0), (2, 0), (3, 0), (4, 0), (5, 1), (7, 1), (9, 2), (13, 2), (17, 3), (25, 3), (33, 4),
  (49, 4), (65, 5), (97, 5), (129, 6), (193, 6), (257, 7), (385, 7), (513, 8), (769, 8),
  (1025, 9), (1537, 9), (2049, 10), (3073, 10), (4097, 11), (6145, 11), (8193, 12), (12289, 12),
  (16385, 13), (24577, 13)]

/-- Reads the rest of a number that begins with a symbol of a table. -/
def scaled (table : List (Nat × Nat)) (symbol : Nat) (flaw : Flaw) : Inflating Nat := do
  match table[symbol]? with
  | some (least, bits) => return least + (← number bits)
  | none => refuse flaw

/-- Repeats `n` bytes that stand `distance` bytes back in the output. -/
def copyMatch (distance : Nat) : Nat → Inflating Unit
  | 0 => return ()
  | n + 1 => do
    let out := (← get).output
    emit (out[out.size - distance]?.getD 0)
    copyMatch distance n

/-- The symbol that ends a block. -/
def endSymbol : Nat := 256

/-- Reads symbols until the block ends; `steps` bounds their number. -/
def codedSymbols (literals distanceCode : PrefixCode) : Nat → Inflating Unit
  | 0 => throw .short
  | steps + 1 => do
    let s ← symbol literals .literal
    if s < endSymbol then
      emit (UInt8.ofNat s)
      codedSymbols literals distanceCode steps
    else if s = endSymbol then return ()
    else
      let length ← scaled matchLengths (s - endSymbol - 1) .literal
      let distance ← scaled distances (← symbol distanceCode .distance) .distance
      if (← get).output.size < distance then refuse .distanceTooFar
      copyMatch distance length
      codedSymbols literals distanceCode steps

/-- Reads a block with the given codes. -/
def codedBlock (literals distanceCode : PrefixCode) : Inflating Unit := do
  codedSymbols literals distanceCode ((← get).bits.length + 1)

/-! ### Codes -/

/-- The code lengths of literals and match lengths where a block does not give them. -/
def standardLengths : List Nat :=
  List.replicate 144 8 ++ List.replicate 112 9 ++ List.replicate 24 7 ++ List.replicate 8 8

/-- The code without words. -/
def noWords : PrefixCode := .node .gap .gap

/-- Reads a block with the codes that need not be given. -/
def standardBlock : Inflating Unit :=
  codedBlock ((PrefixCode.ofLengths? true .gap standardLengths).getD noWords)
    ((PrefixCode.ofLengths? true .gap (List.replicate 32 5)).getD noWords)

/-- The order in which the lengths of the code of code lengths are given. -/
def lengthOrder : List Nat := [16, 17, 18, 0, 8, 7, 9, 6, 10, 5, 11, 4, 12, 3, 13, 2, 14, 1, 15]

/-- Reads `n` numbers of three bits. -/
def triples : Nat → Inflating (List Nat)
  | 0 => return []
  | n + 1 => do
    let first ← number 3
    return first :: (← triples n)

/-- Reads code lengths until there are `count`; `found` are those read so far, last one first, and
`steps` bounds the number of reads. -/
def codeLengths (code : PrefixCode) (count : Nat) : Nat → List Nat → Inflating (List Nat)
  | 0, found => return found.reverse
  | steps + 1, found => do
    if count ≤ found.length then return found.reverse
    let s ← symbol code .lengthCode
    if s < 16 then codeLengths code count steps (s :: found)
    else
      let (repeated, times) ←
        if s = 16 then do
          let more ← number 2
          match found with
          | last :: _ => pure (last, 3 + more)
          | [] => refuse .lengthRepeat
        else if s = 17 then do pure (0, 3 + (← number 3))
        else do pure (0, 11 + (← number 7))
      if count < found.length + times then refuse .lengthRepeat
      codeLengths code count steps (List.replicate times repeated ++ found)

/-- Reads a block that gives its codes. -/
def givenBlock : Inflating Unit := do
  let literalCount := 257 + (← number 5)
  let distanceCount := 1 + (← number 5)
  let lengthCount := 4 + (← number 4)
  if 286 < literalCount || 30 < distanceCount then refuse .symbolCount
  let given := lengthOrder.zip (← triples lengthCount)
  let lengths := (List.range 19).map fun s => (given.lookup s).getD 0
  match PrefixCode.ofLengths? false (.leaf 0) lengths with
  | none => refuse .lengthCode
  | some code => do
    let count := literalCount + distanceCount
    let all ← codeLengths code count count []
    if all[endSymbol]?.getD 0 = 0 then refuse .noEnd
    match PrefixCode.ofLengths? true .gap (all.take literalCount),
        PrefixCode.ofLengths? true .gap (all.drop literalCount) with
    | none, _ => refuse .literalCode
    | _, none => refuse .distanceCode
    | some literals, some distanceCode => codedBlock literals distanceCode

/-! ### Blocks -/

/-- Reads blocks up to the last one; `steps` bounds their number. -/
def blocks : Nat → Inflating Unit
  | 0 => throw .short
  | steps + 1 => do
    let last ← number 1
    match ← number 2 with
    | 0 => storedBlock
    | 1 => standardBlock
    | 2 => givenBlock
    | _ => refuse .blockKind
    if last = 1 then align else blocks steps

/-- Reads deflated data. -/
def deflated : Inflating Unit := do blocks ((← get).bits.length + 1)

end Inflating

end Workflow.Compression
