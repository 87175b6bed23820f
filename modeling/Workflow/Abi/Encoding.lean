import Workflow.Abi.Codec
import Workflow.Decimal.Numeral
import Workflow.Text.Utf8
import Workflow.Value.Display

/-!
# ABI encoding

A value is encoded by its codec into words of 32 bytes.  The parts of a tuple or array whose
length varies stand behind the others, and an offset stands in their place.  Values are checked
from left to right, the items of an array before its length and those of a tuple behind it.
-/

namespace Workflow.Abi

/-- Why a codec refuses a value. -/
inductive ValueError where
  /-- The value is of a kind that the codec does not take. -/
  | wrongKind (value : Value) (encoder : String)
  /-- The value is no sequence. -/
  | notSequence (value : Value) (encoder wanted : String)
  /-- The number is out of bounds. -/
  | outOfBounds (value : Value) (encoder : String) (bits : Nat) (lower upper : String)
  /-- There are too many bytes. -/
  | tooLong (value : Value) (size : Nat)
  /-- An array or a tuple has the wrong length. -/
  | wrongLength (value : Value) (encoder : String) (got wanted : Nat)
  /-- The value is refused and holds an integer with too many digits for a message. -/
  | unwritable
  deriving BEq, Repr

/-- What all refusals start with. -/
def refusal (value : Value) (encoder : String) : String :=
  "Value `" ++ Value.abridged 79 value.shown ++ "` of type <class '" ++ value.kindPath
    ++ "'> cannot be encoded by " ++ encoder

/-- The wording of a refusal. -/
def ValueError.message : ValueError → String
  | .wrongKind value encoder => refusal value encoder
  | .notSequence value encoder wanted =>
    refusal value encoder ++ ": must be " ++ wanted ++ " such as array or tuple"
  | .outOfBounds value encoder bits lower upper =>
    refusal value encoder ++ ": Cannot be encoded in " ++ toString bits
      ++ " bits. Must be bounded between [" ++ lower ++ ", " ++ upper ++ "]."
  | .tooLong value size =>
    refusal value "BytesEncoder" ++ ": exceeds total byte size for bytes" ++ toString size
      ++ " encoding"
  | .wrongLength value encoder got wanted =>
    refusal value encoder ++ ": value has " ++ toString got ++ " items when "
      ++ toString wanted ++ " were expected"
  | .unwritable => Numeral.Error.tooLongToWrite.message

/-- Refuses a value, with the reason if it can be written down. -/
def refuse {α : Type} (value : Value) (e : ValueError) : Except ValueError α :=
  .error (if value.isWritable then e else .unwritable)

/-! ### Words -/

/-- The big-endian bytes of a number, `count` of them. -/
def bigEndian (count n : Nat) : List UInt8 :=
  (List.range count).map fun i => UInt8.ofNat (n / Nat.pow 256 (count - 1 - i))

/-- A number as a word. -/
def word (n : Nat) : List UInt8 := bigEndian 32 n

/-- An integer as a word, negative ones by their complement. -/
def signedWord (n : Int) : List UInt8 := word (n % Nat.pow 2 256).toNat

/-- The least multiple of 32 that is not below a number. -/
def ceil32 (n : Nat) : Nat := (n + 31) / 32 * 32

/-- Bytes filled up with zeros to a multiple of 32. -/
def padRight (bs : List UInt8) : List UInt8 :=
  bs ++ List.replicate (ceil32 bs.length - bs.length) 0

/-! ### Bounds -/

/-- The integer `n` with its last `places` digits behind a decimal point; far behind the point, in
scientific notation. -/
def scaledText (n : Int) (places : Nat) : String :=
  let digits := Nat.toDigits 10 n.natAbs
  let leading : Int := digits.length - 1 - places
  let body :=
    if -6 ≤ leading then
      let padded := List.replicate (places + 1 - digits.length) '0' ++ digits
      let whole := padded.length - places
      padded.take whole ++ '.' :: padded.drop whole
    else
      let fraction := digits.drop 1
      digits.take 1 ++ (if fraction.isEmpty then [] else '.' :: fraction)
        ++ 'E' :: '-' :: Nat.toDigits 10 leading.natAbs
  String.ofList (if n < 0 then '-' :: body else body)

/-- Checks a number against bounds that are written in messages with `places` places. -/
def checkBounds (value : Value) (n lower upper : Int) (encoder : String) (bits places : Nat) :
    Except ValueError Unit :=
  if lower ≤ n ∧ n ≤ upper then .ok ()
  else
    let written (bound : Int) := if places = 0 || bound = 0 then toString bound
      else scaledText bound places
    refuse value (.outOfBounds value encoder bits (written lower) (written upper))

/-- The greatest integer of `bits` bits. -/
def greatestUnsigned (bits : Nat) : Int := Nat.pow 2 bits - 1

/-- The greatest integer of `bits` bits, one of which is for the sign. -/
def greatestSigned (bits : Nat) : Int := Nat.pow 2 (bits - 1) - 1

/-- The least integer of `bits` bits, one of which is for the sign. -/
def leastSigned (bits : Nat) : Int := -(Nat.pow 2 (bits - 1))

/-- A number in units of its last decimal place. -/
def inUnits (n : Int) (places : Nat) : Int := n * Nat.pow 10 places

/-- A length or an offset as a word, in the same bounds as an integer of 256 bits. -/
def sizeWord (n : Nat) : Except ValueError (List UInt8) :=
  (checkBounds (.int n) n 0 (greatestUnsigned 256) "UnsignedIntegerEncoder" 256 0).map
    fun _ => word n

/-! ### Values -/

/-- Bytes behind their number. -/
def prefixed (bs : List UInt8) : Except ValueError (List UInt8) :=
  (sizeWord bs.length).map (· ++ padRight bs)

/-- The digits of an address without mark, if a text is one in lower case. -/
def addressDigits? (s : String) : Option (List Char) :=
  let digits := Hex.unmarked s.toList
  if digits.length == 40 && digits.all Hex.isDigit then some digits else none

/-- The twenty bytes of an address: those of a text in lower case, or bytes of that number. -/
def addressBytes? : Value → Option (List UInt8)
  | .text s => (addressDigits? s).bind fun digits => (Hex.decode digits).toOption
  | .bytes bs => if bs.length = 20 then some bs else none
  | _ => none

/-- The number that a decimal codec takes for a value. -/
def fixedNumber? : Value → Option Int
  | .int n => some n
  | .bool b => some (if b then 1 else 0)
  | _ => none

mutual

/-- Whether the number of bytes depends on the value. -/
def Codec.isDynamic : Codec → Bool
  | .bytes => true
  | .string => true
  | .openArray _ => true
  | .sizedArray item _ => item.isDynamic
  | .tuple components => anyDynamic components
  | _ => false
termination_by structural c => c

/-- Whether the number of bytes of some codec depends on the value. -/
def anyDynamic : List Codec → Bool
  | [] => false
  | c :: cs => c.isDynamic || anyDynamic cs
termination_by structural cs => cs

end

/-- The size of the first part of an encoding: an offset for every part whose length varies, and
the other parts themselves. -/
def headSize (parts : List (Bool × List UInt8)) : Nat :=
  (parts.map fun (dynamic, bs) => if dynamic then 32 else bs.length).foldl (· + ·) 0

/-- The first part of an encoding; `offset` is where the next part of varying length will stand. -/
def heads (offset : Nat) : List (Bool × List UInt8) → Except ValueError (List UInt8)
  | [] => .ok []
  | (true, bs) :: parts => do
    let place ← sizeWord offset
    return place ++ (← heads (offset + bs.length) parts)
  | (false, bs) :: parts => (heads offset parts).map (bs ++ ·)

/-- The second part of an encoding: the parts of varying length. -/
def tails (parts : List (Bool × List UInt8)) : List UInt8 :=
  parts.flatMap fun (dynamic, bs) => if dynamic then bs else []

/-- The encoding of a sequence of parts; a part is marked if its length varies. -/
def assemble (parts : List (Bool × List UInt8)) : Except ValueError (List UInt8) :=
  (heads (headSize parts) parts).map (· ++ tails parts)

mutual

/-- The encoding of a value. -/
def Codec.encode (codec : Codec) (value : Value) : Except ValueError (List UInt8) :=
  match codec with
  | .uint bits =>
    match value with
    | .int n =>
      (checkBounds value n 0 (greatestUnsigned bits) "UnsignedIntegerEncoder" bits 0).map
        fun _ => signedWord n
    | _ => refuse value (.wrongKind value "UnsignedIntegerEncoder")
  | .int bits =>
    match value with
    | .int n =>
      (checkBounds value n (leastSigned bits) (greatestSigned bits) "SignedIntegerEncoder" bits
        0).map fun _ => signedWord n
    | _ => refuse value (.wrongKind value "SignedIntegerEncoder")
  | .ufixed bits places =>
    match fixedNumber? value with
    | some n =>
      (checkBounds value (inUnits n places) 0 (greatestUnsigned bits) "UnsignedFixedEncoder" bits
        places).map fun _ => signedWord (inUnits n places)
    | none => refuse value (.wrongKind value "UnsignedFixedEncoder")
  | .fixed bits places =>
    match fixedNumber? value with
    | some n =>
      (checkBounds value (inUnits n places) (leastSigned bits) (greatestSigned bits)
        "SignedFixedEncoder" bits places).map fun _ => signedWord (inUnits n places)
    | none => refuse value (.wrongKind value "SignedFixedEncoder")
  | .bool =>
    match value with
    | .bool b => .ok (word (if b then 1 else 0))
    | _ => refuse value (.wrongKind value "BooleanEncoder")
  | .address =>
    match addressBytes? value with
    | some bs => .ok (List.replicate 12 0 ++ bs)
    | none => refuse value (.wrongKind value "AddressEncoder")
  | .fixedBytes size =>
    match value with
    | .bytes bs =>
      if size < bs.length then refuse value (.tooLong value size)
      else .ok (bs ++ List.replicate (32 - bs.length) 0)
    | _ => refuse value (.wrongKind value "BytesEncoder")
  | .bytes =>
    match value with
    | .bytes bs => prefixed bs
    | _ => refuse value (.wrongKind value "ByteStringEncoder")
  | .string =>
    match value with
    | .text s => prefixed (Utf8.encode s)
    | _ => refuse value (.wrongKind value "TextStringEncoder")
  | .sizedArray item length =>
    match value.items? with
    | some vs =>
      -- The items are encoded before they are counted.
      match vs.mapM fun v => item.encode v with
      | .error e => .error e
      | .ok parts =>
        if vs.length = length then assemble (parts.map fun bs => (item.isDynamic, bs))
        else refuse value (.wrongLength value "SizedArrayEncoder" vs.length length)
    | none => refuse value (.notSequence value "SizedArrayEncoder" "list-like")
  | .openArray item =>
    match value.items? with
    | some vs =>
      match vs.mapM fun v => item.encode v with
      | .error e => .error e
      | .ok parts => do
        let count ← sizeWord vs.length
        return count ++ (← assemble (parts.map fun bs => (item.isDynamic, bs)))
    | none => refuse value (.notSequence value "DynamicArrayEncoder" "list-like")
  | .tuple components =>
    match value.items? with
    | some vs =>
      if vs.length = components.length then (encodeEach components vs).bind assemble
      else refuse value (.wrongLength value "TupleEncoder" vs.length components.length)
    | none => refuse value (.notSequence value "TupleEncoder" "list-like object")
termination_by structural codec

/-- The encodings of values by one codec each, marked where their length varies. -/
def encodeEach (codecs : List Codec) (values : List Value) :
    Except ValueError (List (Bool × List UInt8)) :=
  match codecs with
  | [] => .ok []
  | c :: cs =>
    match values with
    | [] => .ok []
    | v :: vs =>
      match c.encode v with
      | .error e => .error e
      | .ok bs => (encodeEach cs vs).map ((c.isDynamic, bs) :: ·)
termination_by structural codecs

end

/-- Why values cannot be encoded. -/
inductive EncodeError where
  /-- A type is refused. -/
  | type (e : TypeError)
  /-- A value is refused. -/
  | value (e : ValueError)
  deriving BEq, Repr

/-- The wording of an error. -/
def EncodeError.message : EncodeError → String
  | .type e => e.message
  | .value e => e.message

/-- The codecs that some type texts name, the first error winning. -/
def codecsOfTexts : List String → Except TypeError (List Codec)
  | [] => .ok []
  | s :: ss => do
    let c ← Codec.ofText s
    let cs ← codecsOfTexts ss
    return c :: cs

/-- The encoding of values by types: all types are read before any value is looked at. -/
def encode (types : List String) (values : List Value) : Except EncodeError (List UInt8) :=
  match codecsOfTexts types with
  | .error e => .error (.type e)
  | .ok codecs => ((encodeEach codecs values).bind assemble).mapError .value

end Workflow.Abi
