import Workflow.Text.Quoted

/-!
# Why bytes have no text
-/

namespace Workflow.Charset

/-- Why a byte string has no text in a character set at all. -/
inductive Error where
  /-- A text in units of some bits does not start with a byte-order mark. -/
  | noMark (bits : Nat)
  /-- The character set is a name without a meaning. -/
  | undefined
  /-- The character set does not take undecodable places. -/
  | strictOnly
  /-- The name stands for a transformation of bytes. -/
  | bytesOnly
  /-- The name stands for a transformation of text. -/
  | textOnly
  /-- A byte that must be ASCII is not. -/
  | notAscii (byte : UInt8) (position : Nat)
  /-- Too many bytes wait for the end of a piece. -/
  | pending
  /-- The name holds a zero. -/
  | nameWithZero
  deriving DecidableEq, Repr

/-- The wording of an error. -/
def Error.message : Error → String
  | .noMark bits => "UTF-" ++ toString bits ++ " stream does not start with BOM"
  | .undefined => "undefined encoding"
  | .strictOnly => "Unsupported error handling replace"
  | .bytesOnly => ""
  | .textOnly => "descriptor 'translate' for 'str' objects doesn't apply to a 'bytes' object"
  | .notAscii byte position =>
    "'ascii' codec can't decode byte 0x" ++ String.ofList (Quoted.hexCode 2 byte.toNat)
      ++ " in position " ++ toString position ++ ": ordinal not in range(128)"
  | .pending => "pending buffer overflow"
  | .nameWithZero => "embedded null character"

end Workflow.Charset
