/-!
# Flaws of compressed data
-/

namespace Workflow.Compression

/-- What can be wrong with compressed data. -/
inductive Flaw where
  /-- The data does not start with a header. -/
  | header
  /-- The header names an unknown method. -/
  | method
  /-- The header asks for too large a window. -/
  | window
  /-- The header has reserved flags. -/
  | headerFlags
  /-- The header does not have its checksum. -/
  | headerSum
  /-- The data needs a dictionary that is not at hand. -/
  | dictionary
  /-- A block is of no known kind. -/
  | blockKind
  /-- The length of a stored block and its complement do not agree. -/
  | storedLength
  /-- A block has too many symbols. -/
  | symbolCount
  /-- The code of the code lengths is no code. -/
  | lengthCode
  /-- A repeated code length has no first one or goes on too long. -/
  | lengthRepeat
  /-- A block has no code for its end. -/
  | noEnd
  /-- The code of literals and match lengths is no code. -/
  | literalCode
  /-- The code of distances is no code. -/
  | distanceCode
  /-- A literal or match length has no meaning. -/
  | literal
  /-- A distance has no meaning. -/
  | distance
  /-- A distance leads in front of the output. -/
  | distanceTooFar
  /-- The output does not have its checksum. -/
  | dataSum
  /-- The output does not have its length. -/
  | dataLength
  deriving DecidableEq, Repr

/-- What is wrong, in words. -/
def Flaw.reason : Flaw → String
  | .header => "incorrect header check"
  | .method => "unknown compression method"
  | .window => "invalid window size"
  | .headerFlags => "unknown header flags set"
  | .headerSum => "header crc mismatch"
  | .dictionary => "need dictionary"
  | .blockKind => "invalid block type"
  | .storedLength => "invalid stored block lengths"
  | .symbolCount => "too many length or distance symbols"
  | .lengthCode => "invalid code lengths set"
  | .lengthRepeat => "invalid bit length repeat"
  | .noEnd => "invalid code -- missing end-of-block"
  | .literalCode => "invalid literal/lengths set"
  | .distanceCode => "invalid distances set"
  | .literal => "invalid literal/length code"
  | .distance => "invalid distance code"
  | .distanceTooFar => "invalid distance too far back"
  | .dataSum => "incorrect data check"
  | .dataLength => "incorrect length check"

/-- The wording of a flaw. -/
def Flaw.message : Flaw → String
  | .dictionary => "Error 2 while decompressing data"
  | flaw => "Error -3 while decompressing data: " ++ flaw.reason

end Workflow.Compression
