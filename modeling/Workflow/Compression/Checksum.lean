/-!
# Checksums
-/

namespace Workflow.Compression

/-- The remainder behind one more bit of a cyclic redundancy check. -/
def shiftRemainder (r : UInt32) : UInt32 :=
  if r &&& 1 = 1 then (r >>> 1) ^^^ 0xEDB88320 else r >>> 1

/-- The remainder behind one more byte of a cyclic redundancy check. -/
def foldByte (r : UInt32) (b : UInt8) : UInt32 :=
  Nat.repeat shiftRemainder 8 (r ^^^ b.toUInt32)

/-- The cyclic redundancy check of 32 bits. -/
def crc32 (bytes : List UInt8) : Nat := (bytes.foldl foldByte 0xFFFFFFFF ^^^ 0xFFFFFFFF).toNat

/-- The modulus of the sums of `adler32`. -/
def adlerModulus : Nat := 65521

/-- The sum of the bytes and the sum of all sums, in one word. -/
def adler32 (bytes : List UInt8) : Nat :=
  let (a, b) := bytes.foldl
    (fun (a, b) byte =>
      let a' := (a + byte.toNat) % adlerModulus
      (a', (b + a') % adlerModulus)) (1, 0)
  65536 * b + a

end Workflow.Compression
