/-
  Montage.Compression.Damage

  What can be wrong with compressed data.
-/

namespace Montage.Compression

/-- Why compressed data cannot be unpacked. -/
inductive Damage where
  /-- The data do not begin as their container does. -/
  | header
  | method
  | windowSize
  | headerFlags
  | headerSum
  /-- The data can only be unpacked with a dictionary that is not there. -/
  | dictionary
  | blockType
  | storedLength
  | symbolCount
  /-- The lengths of the code for lengths make no code. -/
  | lengthCode
  | lengthRepeat
  /-- The end of the block has no code. -/
  | noBlockEnd
  /-- The lengths of the code for bytes and matches make no code. -/
  | literalCode
  /-- The lengths of the code for distances make no code. -/
  | distanceCode
  | badLiteral
  | badDistance
  /-- A match begins before the first byte. -/
  | tooFarBack
  | dataSum
  | dataLength
  deriving DecidableEq, Repr

/-- The reason in words, where there are any. -/
def Damage.reason? : Damage → Option String
  | .header => some "incorrect header check"
  | .method => some "unknown compression method"
  | .windowSize => some "invalid window size"
  | .headerFlags => some "unknown header flags set"
  | .headerSum => some "header crc mismatch"
  | .dictionary => none
  | .blockType => some "invalid block type"
  | .storedLength => some "invalid stored block lengths"
  | .symbolCount => some "too many length or distance symbols"
  | .lengthCode => some "invalid code lengths set"
  | .lengthRepeat => some "invalid bit length repeat"
  | .noBlockEnd => some "invalid code -- missing end-of-block"
  | .literalCode => some "invalid literal/lengths set"
  | .distanceCode => some "invalid distances set"
  | .badLiteral => some "invalid literal/length code"
  | .badDistance => some "invalid distance code"
  | .tooFarBack => some "invalid distance too far back"
  | .dataSum => some "incorrect data check"
  | .dataLength => some "incorrect length check"

/-- The message about damage. -/
def Damage.message (damage : Damage) : String :=
  match damage.reason? with
  | some reason => "Error -3 while decompressing data: " ++ reason
  | none => "Error 2 while decompressing data"

end Montage.Compression
