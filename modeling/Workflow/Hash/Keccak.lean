/-!
# Keccak-256

The hash of contract selectors and transaction payloads: the sponge over the permutation of
twenty-five 64-bit lanes with rate 136 bytes, the padding `0x01 … 0x80` and 32 bytes of output.
The lane with the coordinates `(x, y)` has the index `x + 5 * y`.
-/

namespace Workflow.Keccak

/-- The permuted state. -/
abbrev State := Vector UInt64 25

/-- The amount by which each lane is rotated. -/
def rotations : Vector UInt64 25 := #v[
  0, 1, 62, 28, 27, 36, 44, 6, 55, 20, 3, 10, 43, 25, 39, 41, 45, 15, 21, 8, 18, 2, 61, 56, 14]

/-- The constants added to the first lane, one per round. -/
def roundConstants : List UInt64 := [
  0x0000000000000001, 0x0000000000008082, 0x800000000000808A, 0x8000000080008000,
  0x000000000000808B, 0x0000000080000001, 0x8000000080008081, 0x8000000000008009,
  0x000000000000008A, 0x0000000000000088, 0x0000000080008009, 0x000000008000000A,
  0x000000008000808B, 0x800000000000008B, 0x8000000000008089, 0x8000000000008003,
  0x8000000000008002, 0x8000000000000080, 0x000000000000800A, 0x800000008000000A,
  0x8000000080008081, 0x8000000000008080, 0x0000000080000001, 0x8000000080008008]

/-- A lane rotated towards its high end. -/
def rotate (lane amount : UInt64) : UInt64 := (lane <<< amount) ||| (lane >>> (64 - amount))

/-- Adds to every lane the parities of two neighbouring columns. -/
def theta (s : State) : State :=
  let parity : Vector UInt64 5 :=
    .ofFn fun x => s[x.val] ^^^ s[x.val + 5] ^^^ s[x.val + 10] ^^^ s[x.val + 15] ^^^ s[x.val + 20]
  .ofFn fun i =>
    let before := parity.get ⟨(i.val + 4) % 5, by omega⟩
    let behind := parity.get ⟨(i.val + 1) % 5, by omega⟩
    s[i] ^^^ before ^^^ rotate behind 1

/-- Rotates the lanes and moves them to their new places. -/
def rhoPi (s : State) : State :=
  .ofFn fun i =>
    let x := (i.val % 5 + 3 * (i.val / 5)) % 5
    let y := i.val % 5
    rotate (s.get ⟨x + 5 * y, by omega⟩) (rotations.get ⟨x + 5 * y, by omega⟩)

/-- Combines every lane with the two that follow it in its row. -/
def chi (s : State) : State :=
  .ofFn fun i =>
    let row := 5 * (i.val / 5)
    let first := s.get ⟨(i.val + 1) % 5 + row, by omega⟩
    let second := s.get ⟨(i.val + 2) % 5 + row, by omega⟩
    s[i] ^^^ (~~~ first &&& second)

/-- One round of the permutation. -/
def round (s : State) (constant : UInt64) : State :=
  let t := chi (rhoPi (theta s))
  t.set 0 (t[0] ^^^ constant)

/-- The permutation. -/
def permute (s : State) : State := roundConstants.foldl round s

/-- The number of bytes taken in between two permutations. -/
def rate : Nat := 136

/-- A message with its padding: a multiple of `rate` bytes. -/
def pad (message : List UInt8) : List UInt8 :=
  let missing := rate - message.length % rate
  if missing = 1 then message ++ [0x81]
  else message ++ 0x01 :: List.replicate (missing - 2) 0 ++ [0x80]

/-- The number written by bytes with the least significant byte first. -/
def lane (bytes : List UInt8) : UInt64 := bytes.foldr (fun b n => n <<< 8 ||| b.toUInt64) 0

/-- Adds one block to the state and permutes it. -/
def absorb (s : State) (block : List UInt8) : State :=
  permute (.ofFn fun i => s[i] ^^^ lane ((block.drop (8 * i.val)).take 8))

/-- Takes in `count` blocks. -/
def absorbBlocks : Nat → State → List UInt8 → State
  | 0, s, _ => s
  | count + 1, s, bytes => absorbBlocks count (absorb s (bytes.take rate)) (bytes.drop rate)

/-- The eight bytes of a lane, least significant byte first. -/
def laneBytes (n : UInt64) : List UInt8 :=
  (List.range 8).map fun i => (n >>> (8 * i.toUInt64)).toUInt8

/-- The hash of a message. -/
def hash (message : List UInt8) : List UInt8 :=
  let padded := pad message
  let s := absorbBlocks (padded.length / rate) (.replicate 25 0) padded
  (s.toList.take 4).flatMap laneBytes

end Workflow.Keccak
