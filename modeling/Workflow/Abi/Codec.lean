import Workflow.Abi.Type

/-!
# Codecs

A codec is a type whose sizes are known to be in bounds and whose base is known.  `Codec.ofText`
reads it from a type text: the text must fit the grammar, all sizes in it are checked from left to
right, and then every base is looked up; a base without a codec that stands alone comes before its
size.
-/

namespace Workflow.Abi

/-- How a type is encoded. -/
inductive Codec where
  /-- A number from zero to `2 ^ bits - 1`. -/
  | uint (bits : Nat)
  /-- A number from `-2 ^ (bits - 1)` to `2 ^ (bits - 1) - 1`. -/
  | int (bits : Nat)
  /-- A decimal with `places` places, not negative. -/
  | ufixed (bits places : Nat)
  /-- A decimal with `places` places. -/
  | fixed (bits places : Nat)
  /-- A truth value. -/
  | bool
  /-- An address. -/
  | address
  /-- At most `size` bytes, filled up on the right. -/
  | fixedBytes (size : Nat)
  /-- Any number of bytes. -/
  | bytes
  /-- A text. -/
  | string
  /-- An array of a fixed length. -/
  | sizedArray (item : Codec) (length : Nat)
  /-- An array of any length. -/
  | openArray (item : Codec)
  /-- A tuple. -/
  | tuple (components : List Codec)
  deriving Repr

/-- The rules on sizes. -/
inductive SizeRule where
  | stringPlain
  | bytesNumber
  | bytesMaximum
  | integerNumber
  | integerBounds
  | integerMultiple
  | fixedNumbers
  | fixedBounds
  | fixedMultiple
  | fixedExponent (exponent : Nat)
  | hashNumber
  | addressPlain
  deriving DecidableEq, Repr

/-- The wording of a rule. -/
def SizeRule.message : SizeRule → String
  | .stringPlain => "string type cannot have suffix"
  | .bytesNumber => "bytes type must have either no suffix or a numerical suffix"
  | .bytesMaximum => "maximum 32 bytes for fixed-length bytes"
  | .integerNumber => "integer type must have numerical suffix"
  | .integerBounds => "integer size out of bounds (max 256 bits)"
  | .integerMultiple => "integer size must be multiple of 8"
  | .fixedNumbers => "fixed type must have suffix of form <bits>x<exponent>, e.g. 128x19"
  | .fixedBounds => "fixed size out of bounds (max 256 bits)"
  | .fixedMultiple => "fixed size must be multiple of 8"
  | .fixedExponent exponent =>
    "fixed exponent size out of bounds, " ++ toString exponent ++ " must be in 1-80"
  | .hashNumber => "hash type must have numerical suffix"
  | .addressPlain => "address cannot have suffix"

/-- Why a text names no codec. -/
inductive TypeError where
  /-- The text does not fit the grammar. -/
  | malformed (e : SyntaxError)
  /-- The text holds a tuple without components. -/
  | emptyTuple
  /-- A size in the text breaks a rule. -/
  | badSize (ty : String) (column : Nat) (whole : String) (rule : SizeRule)
  /-- No codec has the base of the type. -/
  | unknown (ty : String)
  /-- The base of the type takes no size. -/
  | sizedFunction (ty : String)
  deriving DecidableEq, Repr

/-- The wording of an error. -/
def TypeError.message : TypeError → String
  | .malformed e =>
    "Parse error at '" ++ String.ofList ((e.text.toList.drop e.position).take 5) ++ "' (column "
      ++ toString e.column ++ ") in type string '" ++ e.text ++ "'"
  | .emptyTuple => "Zero-sized tuple types \"()\" are not supported."
  | .badSize ty column whole rule =>
    "For '" ++ ty ++ "' type at column " ++ toString column ++ " in '" ++ whole ++ "': "
      ++ rule.message
  | .unknown ty => "No matching entries for " ++ Quoted.text ty ++ " in encoder registry"
  | .sizedFunction ty =>
    "Cannot create BytesEncoder for type " ++ Quoted.text ty ++ ": expected type with base 'bytes'"

/-! ### Aliases -/

/-- The type that a base without size stands for. -/
def fullBase (base : String) : Size → String × Size
  | .none =>
    if base = "uint" || base = "int" then (base, .one 256)
    else if base = "fixed" || base = "ufixed" then (base, .two 128 18)
    else if base = "byte" then ("bytes", .one 1)
    else if base = "function" then ("bytes", .one 24)
    else (base, .none)
  | size => (base, size)

mutual

/-- A type with all aliases replaced by what they stand for. -/
def Ty.full : Ty → Ty
  | .basic base size dims => let (b, s) := fullBase base size; .basic b s dims
  | .tuple components dims => .tuple (fullAll components) dims
termination_by structural t => t

/-- Some types with all aliases replaced. -/
def fullAll : List Ty → List Ty
  | [] => []
  | t :: ts => t.full :: fullAll ts
termination_by structural ts => ts

end

/-! ### Sizes -/

/-- The rule that a size behind a base breaks, if any. -/
def brokenRule? (base : String) (size : Size) : Option SizeRule :=
  if base = "string" then if size = .none then none else some .stringPlain
  else if base = "bytes" then
    match size with
    | .none => none
    | .one n => if 32 < n then some .bytesMaximum else none
    | .two _ _ => some .bytesNumber
  else if base = "int" || base = "uint" then
    match size with
    | .one n =>
      if n < 8 || 256 < n then some .integerBounds
      else if n % 8 ≠ 0 then some .integerMultiple
      else none
    | _ => some .integerNumber
  else if base = "fixed" || base = "ufixed" then
    match size with
    | .two n m =>
      if n < 8 || 256 < n then some .fixedBounds
      else if n % 8 ≠ 0 then some .fixedMultiple
      else if m < 1 || 80 < m then some (.fixedExponent m)
      else none
    | _ => some .fixedNumbers
  else if base = "hash" then
    match size with
    | .one _ => none
    | _ => some .hashNumber
  else if base = "address" then if size = .none then none else some .addressPlain
  else none

mutual

/-- Checks the sizes in a type that starts at a column of a text. -/
def Ty.checkSizes (whole : String) (column : Nat) (t : Ty) : Except TypeError Unit :=
  match t with
  | .basic base size dims =>
    match brokenRule? base size with
    | some rule => .error (.badSize (Ty.basic base size dims).render column whole rule)
    | none => .ok ()
  | .tuple components _ => checkSizesAll whole (column + 1) components
termination_by structural t

/-- Checks the sizes in the components of a tuple, separated by one character each. -/
def checkSizesAll (whole : String) (column : Nat) (ts : List Ty) : Except TypeError Unit :=
  match ts with
  | [] => .ok ()
  | t :: ts =>
    match t.checkSizes whole column with
    | .error e => .error e
    | .ok () => checkSizesAll whole (column + t.render.length + 1) ts
termination_by structural ts

end

/-! ### Look-up -/

/-- The codec of a base with its size; `item` is the type without array suffixes. -/
def baseCodec (base : String) (size : Size) : Except TypeError Codec :=
  match base, size with
  | "uint", .one n => .ok (.uint n)
  | "int", .one n => .ok (.int n)
  | "ufixed", .two n m => .ok (.ufixed n m)
  | "fixed", .two n m => .ok (.fixed n m)
  | "address", _ => .ok .address
  | "bool", _ => .ok .bool
  | "string", _ => .ok .string
  | "bytes", .none => .ok .bytes
  | "bytes", .one n => .ok (.fixedBytes n)
  | "function", _ => .error (.sizedFunction (base ++ size.render))
  | _, _ => .error (.unknown (base ++ size.render))

/-- A codec with array suffixes, the first of them innermost. -/
def Codec.withDims (codec : Codec) (dims : List Dimension) : Codec :=
  dims.foldl (fun c d => match d with
    | .sized n => .sizedArray c n
    | .open => .openArray c) codec

mutual

/-- The codec of a type whose sizes have been checked. -/
def Ty.codec : Ty → Except TypeError Codec
  | .basic base size dims => (baseCodec base size).map (·.withDims dims)
  | .tuple components dims => (codecs components).map fun cs => (Codec.tuple cs).withDims dims
termination_by structural t => t

/-- The codecs of some types, the first error winning. -/
def codecs : List Ty → Except TypeError (List Codec)
  | [] => .ok []
  | t :: ts =>
    match t.codec with
    | .error e => .error e
    | .ok c => (codecs ts).map (c :: ·)
termination_by structural ts => ts

end

/-- Whether a text holds an opening parenthesis followed by a closing one. -/
def hasEmptyTuple : List Char → Bool
  | '(' :: ')' :: _ => true
  | _ :: rest => hasEmptyTuple rest
  | [] => false

/-- The bases that have a codec. -/
def knownBases : List String :=
  ["uint", "int", "ufixed", "fixed", "address", "bool", "string", "bytes", "function"]

/-- The base type that a type is, if it has no codec. -/
def Ty.unknown? : Ty → Option String
  | .basic base size [] => if knownBases.contains base then none else some (base ++ size.render)
  | _ => none

/-- The codec of a type with all aliases replaced: its base is looked up first if it stands alone,
and behind all sizes otherwise. -/
def Codec.ofTy (t : Ty) : Except TypeError Codec :=
  match t.unknown? with
  | some ty => .error (.unknown ty)
  | none =>
    match t.checkSizes t.render 1 with
    | .error e => .error e
    | .ok () => t.codec

/-- The codec that a type text names. -/
def Codec.ofText (s : String) : Except TypeError Codec :=
  match Ty.parse s with
  | .error e => .error (if hasEmptyTuple s.toList then .emptyTuple else .malformed e)
  | .ok t => Codec.ofTy t.full

end Workflow.Abi
