import Workflow.Charset.Wide

/-!
# Unicode in seven bits

ASCII characters stand for themselves.  A plus sign opens a run of digits to base 64 that hold units
of two bytes; a minus sign or any other character closes it.
-/

namespace Workflow.Charset

/-- The value of a digit to base 64. -/
def sextet? (b : UInt8) : Option Nat :=
  let n := b.toNat
  if 0x41 ≤ n ∧ n ≤ 0x5A then some (n - 0x41)
  else if 0x61 ≤ n ∧ n ≤ 0x7A then some (n - 0x61 + 26)
  else if 0x30 ≤ n ∧ n ≤ 0x39 then some (n - 0x30 + 52)
  else if n = 0x2B then some 62
  else if n = 0x2F then some 63
  else none

/-- What has been read of a run: bits that make no whole unit yet, and half a character. -/
structure Sextets where
  /-- The bits. -/
  bits : Nat := 0
  /-- The number of the bits. -/
  count : Nat := 0
  /-- The first half of a character. -/
  half : Option Nat := none

/-- Whether a run may end here. -/
def Sextets.isWhole (s : Sextets) : Bool := s.count < 6 && s.bits == 0

/-- The places that a unit completes, and the half that it leaves. -/
def unitPlaces (half : Option Nat) (unit : Nat) : Places × Option Nat :=
  match half with
  | some first =>
    if isSecondHalf unit then ([some (joined first unit)], none)
    else if isFirstHalf unit then ([none], some unit)
    else ([none, charOf? unit], none)
  | none => if isFirstHalf unit then ([], some unit) else ([charOf? unit], none)

/-- Adds a digit to a run. -/
def Sextets.add (s : Sextets) (digit : Nat) : Places × Sextets :=
  let bits := 64 * s.bits + digit
  let count := s.count + 6
  if count < 16 then ([], { s with bits, count })
  else
    let left := Nat.pow 2 (count - 16)
    let (places, half) := unitPlaces s.half (bits / left)
    (places, { bits := bits % left, count := count - 16, half })

/-- The place of a byte that stands for itself. -/
def directPlace (b : UInt8) : Option Char := if b < 0x80 then some (Char.ofNat b.toNat) else none

/-- Decodes from within a run, or from outside of any. -/
def decodeSevenFrom : Option Sextets → List UInt8 → Places
  | none, [] => []
  | some s, [] => if s.isWhole && s.half.isNone then [] else [none]
  | none, b :: rest =>
    if b = 0x2B then
      match rest with
      | [] => []
      | c :: rest' =>
        if c = 0x2D then some '+' :: decodeSevenFrom none rest'
        else match sextet? c with
          | none => none :: decodeSevenFrom none rest'
          | some digit =>
            let (places, s) := Sextets.add {} digit
            places ++ decodeSevenFrom (some s) rest'
    else directPlace b :: decodeSevenFrom none rest
  | some s, b :: rest =>
    match sextet? b with
    | some digit =>
      let (places, s') := s.add digit
      places ++ decodeSevenFrom (some s') rest
    | none =>
      if !s.isWhole then none :: decodeSevenFrom none rest
      else
        let lone : Places := if s.half.isSome && b < 0x80 then [none] else []
        lone ++ (if b = 0x2D then [] else [directPlace b]) ++ decodeSevenFrom none rest

/-- Decodes Unicode in seven bits. -/
def decodeSeven (bytes : List UInt8) : Places := decodeSevenFrom none bytes

end Workflow.Charset
