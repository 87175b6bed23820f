import Workflow.Text.Hex

/-!
# Addresses

An address is written as `0x` and forty hexadecimal digits of either case; one line break behind
them is let through.
-/

namespace Workflow

/-- Whether the characters are `0x` and forty hexadecimal digits. -/
def isPlainAddress : List Char → Bool
  | '0' :: 'x' :: digits => digits.length == 40 && digits.all Hex.isDigit
  | _ => false

/-- Whether a text is an address. -/
def isAddress (s : String) : Bool := isPlainAddress (Hex.dropFinalNewline s.toList)

end Workflow
