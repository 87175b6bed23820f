/-!
# UTF-8

Encoding text as bytes, and decoding bytes one at a time.  Decoding never fails: every maximal
piece that starts a character and cannot be completed, and every byte that starts none, is one
undecodable place (`none`), and decoding goes on behind it.
-/

namespace Workflow.Utf8

/-- The bytes of a text. -/
def encode (s : String) : List UInt8 := s.toList.flatMap String.utf8EncodeChar

/-- A character in progress: the bits read so far, the number of bytes still owed, and the bounds
of the next byte. -/
structure Pending where
  /-- The bits read so far. -/
  bits : Nat
  /-- The number of bytes still owed. -/
  owed : Nat
  /-- The least value of the next byte. -/
  least : Nat
  /-- The greatest value of the next byte. -/
  greatest : Nat

/-- What a first byte says. -/
inductive Lead where
  /-- The byte is a whole character. -/
  | whole (c : Char)
  /-- The byte opens a longer character. -/
  | opens (p : Pending)
  /-- No character starts with the byte. -/
  | refused

/-- What a byte says at the start of a character.  The bounds of the second byte exclude overlong
forms, surrogates and values above the last code point. -/
def lead (b : UInt8) : Lead :=
  let n := b.toNat
  if n < 0x80 then .whole (Char.ofNat n)
  else if n < 0xC2 then .refused
  else if n < 0xE0 then .opens ⟨n - 0xC0, 1, 0x80, 0xBF⟩
  else if n = 0xE0 then .opens ⟨0, 2, 0xA0, 0xBF⟩
  else if n = 0xED then .opens ⟨0xD, 2, 0x80, 0x9F⟩
  else if n < 0xF0 then .opens ⟨n - 0xE0, 2, 0x80, 0xBF⟩
  else if n = 0xF0 then .opens ⟨0, 3, 0x90, 0xBF⟩
  else if n < 0xF4 then .opens ⟨n - 0xF0, 3, 0x80, 0xBF⟩
  else if n = 0xF4 then .opens ⟨4, 3, 0x80, 0x8F⟩
  else .refused

/-- Decodes with a character possibly in progress. -/
def decodeFrom : Option Pending → List UInt8 → List (Option Char)
  | none, [] => []
  | some _, [] => [none]
  | none, b :: rest =>
    match lead b with
    | .whole c => some c :: decodeFrom none rest
    | .opens p => decodeFrom (some p) rest
    | .refused => none :: decodeFrom none rest
  | some p, b :: rest =>
    if p.least ≤ b.toNat ∧ b.toNat ≤ p.greatest then
      let bits := 64 * p.bits + (b.toNat - 0x80)
      if p.owed ≤ 1 then some (Char.ofNat bits) :: decodeFrom none rest
      else decodeFrom (some ⟨bits, p.owed - 1, 0x80, 0xBF⟩) rest
    else
      none :: (match lead b with
        | .whole c => some c :: decodeFrom none rest
        | .opens q => decodeFrom (some q) rest
        | .refused => none :: decodeFrom none rest)

/-- The characters of a byte string, with `none` at every undecodable place. -/
def decode (bytes : List UInt8) : List (Option Char) := decodeFrom none bytes

/-- Why and where bytes are no text. -/
structure Flaw where
  /-- The index of the first byte that cannot be decoded. -/
  start : Nat
  /-- The index behind the last byte that cannot be decoded. -/
  stop : Nat
  /-- The first byte that cannot be decoded. -/
  byte : UInt8
  /-- What is wrong with it. -/
  reason : String
  deriving DecidableEq, Repr

/-- The first flaw, with a character possibly in progress: the index and value of its first byte,
and the bytes still expected; `index` counts the bytes already read. -/
def firstFlawFrom (index : Nat) : Option (Nat × UInt8 × Pending) → List UInt8 → Option Flaw
  | none, [] => none
  | some (start, byte, _), [] => some ⟨start, index, byte, "unexpected end of data"⟩
  | none, b :: rest =>
    match lead b with
    | .whole _ => firstFlawFrom (index + 1) none rest
    | .opens p => firstFlawFrom (index + 1) (some (index, b, p)) rest
    | .refused => some ⟨index, index + 1, b, "invalid start byte"⟩
  | some (start, byte, p), b :: rest =>
    if p.least ≤ b.toNat ∧ b.toNat ≤ p.greatest then
      if p.owed ≤ 1 then firstFlawFrom (index + 1) none rest
      else firstFlawFrom (index + 1) (some (start, byte, ⟨0, p.owed - 1, 0x80, 0xBF⟩)) rest
    else some ⟨start, index, byte, "invalid continuation byte"⟩

/-- The first flaw of a byte string, or `none` where it is the encoding of a text. -/
def firstFlaw (bytes : List UInt8) : Option Flaw := firstFlawFrom 0 none bytes

/-- The mark that stands for an undecodable place. -/
def replacement : Char := Char.ofNat 0xFFFD

/-- The text of a byte string, with the replacement mark at every undecodable place. -/
def decodeLossy (bytes : List UInt8) : String :=
  String.ofList ((decode bytes).map (·.getD replacement))

end Workflow.Utf8
