import Workflow.Compression.Checksum
import Workflow.Compression.Deflate

/-!
# Containers of deflated data

Deflated data comes bare, in a short container with one checksum, or in a member of an archive with
a longer header, a checksum and a length.  `inflate` gives the output of a container.  Data that
ends too early gives the output up to there; what stands behind a container is ignored.
-/

namespace Workflow.Compression

open Inflating

/-- The forms of compressed data. -/
inductive Container where
  /-- Deflated data alone. -/
  | bare
  /-- A header of two bytes, and a checksum behind the data. -/
  | zlib
  /-- A member of an archive. -/
  | gzip
  deriving DecidableEq, Repr

/-- The bits of a byte, the least first. -/
def bitsOf (b : UInt8) : List Bool := (List.range 8).map fun i => b.toNat.testBit i

/-- The output so far. -/
def outputSoFar : Inflating (List UInt8) := return (← get).output.toList

/-! ### The short container -/

/-- Reads the header of the short container. -/
def zlibHeader : Inflating Unit := do
  let header ← number 16
  let first := header % 256
  if (256 * first + header / 256) % 31 ≠ 0 then refuse .header
  if first % 16 ≠ 8 then refuse .method
  if 15 < first / 16 + 8 then refuse .window
  if (header / 256).testBit 5 then
    let _ ← number 32
    refuse .dictionary

/-- Reads a number whose greatest byte comes first. -/
def bigEndian : Nat → Nat → Inflating Nat
  | 0, n => return n
  | bytes + 1, n => do bigEndian bytes (256 * n + (← number 8))

/-- Reads the short container. -/
def zlibBody : Inflating Unit := do
  zlibHeader
  deflated
  let sum ← bigEndian 4 0
  if sum ≠ adler32 (← outputSoFar) then refuse .dataSum

/-! ### Members of archives -/

/-- Skips `n` bytes. -/
def skip : Nat → Inflating Unit
  | 0 => return ()
  | n + 1 => do
    let _ ← number 8
    skip n

/-- Skips bytes up to the first zero; `steps` bounds their number. -/
def skipText : Nat → Inflating Unit
  | 0 => throw .short
  | steps + 1 => do if (← number 8) ≠ 0 then skipText steps

/-- Reads the header of a member from the given data. -/
def gzipHeader (data : List UInt8) : Inflating Unit := do
  if (← number 16) ≠ 0x8B1F then refuse .header
  let flags ← number 16
  if flags % 256 ≠ 8 then refuse .method
  if flags / 0x2000 ≠ 0 then refuse .headerFlags
  let _ ← number 32
  let _ ← number 16
  if flags.testBit 10 then skip (← number 16)
  if flags.testBit 11 then skipText (data.length + 1)
  if flags.testBit 12 then skipText (data.length + 1)
  if flags.testBit 9 then
    let read := data.length - (← get).bits.length / 8
    let sum ← number 16
    if sum ≠ crc32 (data.take read) % 65536 then refuse .headerSum

/-- Reads a member from the given data. -/
def gzipBody (data : List UInt8) : Inflating Unit := do
  gzipHeader data
  deflated
  let sum ← number 32
  let output ← outputSoFar
  if sum ≠ crc32 output then refuse .dataSum
  let length ← number 32
  if length ≠ output.length % Nat.pow 2 32 then refuse .dataLength

/-! ### All forms -/

/-- Reads a container from the given data. -/
def Container.body (container : Container) (data : List UInt8) : Inflating Unit :=
  match container with
  | .bare => deflated
  | .zlib => zlibBody
  | .gzip => gzipBody data

/-- The output of compressed data. -/
def inflate (container : Container) (data : List UInt8) : Except Flaw (List UInt8) :=
  match (container.body data).run.run { bits := data.flatMap bitsOf } with
  | (.error (.flawed flaw), _) => .error flaw
  | (_, p) => .ok p.output.toList

end Workflow.Compression
