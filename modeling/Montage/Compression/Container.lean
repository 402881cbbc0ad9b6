/-
  Montage.Compression.Container

  The wrappings of deflated data, each a header and a checksum at the end.  Data that
  end too early unpack to as much as there is.  CRC-32 is the remainder of a division of
  the bits as a polynomial, and Adler-32 is a pair of sums.
-/
import Montage.Compression.Inflate

namespace Montage.Compression

/-! ## CRC-32 -/

/-- The divisor, its lowest power in the highest bit. -/
def crcPolynomial : UInt32 := 0xedb88320

/-- One bit of the division. -/
def crcShift (register : UInt32) : UInt32 :=
  if register &&& 1 = 1 then (register >>> 1) ^^^ crcPolynomial else register >>> 1

/-- One byte of the division. -/
def crcByte (register : UInt32) (byte : UInt8) : UInt32 :=
  Nat.repeat crcShift 8 (register ^^^ byte.toUInt32)

/-- The CRC-32 of bytes. -/
def crc32 (bytes : List UInt8) : Nat :=
  (bytes.foldl crcByte 0xffffffff ^^^ 0xffffffff).toNat

/-! ## Adler-32 -/

/-- The largest prime below `2 ^ 16`. -/
def adlerModulus : Nat := 65521

/-- The Adler-32 of bytes: the sum of the bytes, and above it the sum of those sums. -/
def adler32 (bytes : List UInt8) : Nat :=
  let (low, high) := bytes.foldl (fun (low, high) byte =>
    let low := (low + byte.toNat) % adlerModulus
    (low, (high + low) % adlerModulus)) (1, 0)
  65536 * high + low

/-! ## Reading bytes -/

/-- The number that bytes stand for, the lowest one first. -/
def littleEndian : List UInt8 → Nat
  | [] => 0
  | byte :: rest => byte.toNat + 256 * littleEndian rest

/-- A number of four bytes at the start of bytes, if they are all there. -/
def word? (bytes : List UInt8) : Option Nat :=
  if bytes.length < 4 then none else some (littleEndian (bytes.take 4))

/-! ## The wrapping with Adler-32 -/

/-- The data after the header of two bytes; nothing if that is not all there. -/
def afterZlibHeader (bytes : List UInt8) : Except Damage (Option (List UInt8)) :=
  match bytes with
  | first :: second :: rest =>
    let first := first.toNat
    if (256 * first + second.toNat) % 31 ≠ 0 then .error .header
    else if first % 16 ≠ 8 then .error .method
    else if 7 < first / 16 then .error .windowSize
    else if second.toNat.testBit 5 then
      if rest.length < 4 then .ok none else .error .dictionary
    else .ok (some rest)
  | _ => .ok none

/-- Unpacks data that begin with their window size and end with an Adler-32. -/
def unpackZlib (bytes : List UInt8) : Except Damage (List UInt8) := do
  let some packed ← afterZlibHeader bytes | return []
  let (output, rest) ← inflate packed
  match rest.bind fun rest => word? (rest.take 4).reverse with
  | some check => if check = adler32 output then return output else throw .dataSum
  | none => return output

/-! ## The wrapping with CRC-32 -/

/-- The bytes after a text that ends with a zero, if it ends. -/
def afterZero (bytes : List UInt8) : Option (List UInt8) :=
  match bytes.dropWhile (· != 0) with
  | [] => none
  | _ :: rest => some rest

/-- The bytes after a block with its length in front, if it is all there. -/
def afterBlock : List UInt8 → Option (List UInt8)
  | low :: high :: rest =>
    let length := littleEndian [low, high]
    if rest.length < length then none else some (rest.drop length)
  | _ => none

/-- The data after the parts of a header that its flags announce, if they are all
    there. -/
def afterExtras (flags : Nat) (bytes : List UInt8) : Option (List UInt8) := do
  let bytes ← if flags.testBit 2 then afterBlock bytes else some bytes
  let bytes ← if flags.testBit 3 then afterZero bytes else some bytes
  if flags.testBit 4 then afterZero bytes else some bytes

/-- The data after the header; nothing if that is not all there. -/
def afterGzipHeader (bytes : List UInt8) : Except Damage (Option (List UInt8)) :=
  match bytes with
  | first :: second :: rest =>
    if littleEndian [first, second] ≠ 0x8b1f then .error .header
    else
      match rest with
      | method :: flags :: rest =>
        let flags := flags.toNat
        if method ≠ 8 then .error .method
        else if 0x20 ≤ flags then .error .headerFlags
        else if rest.length < 6 then .ok none
        else
          match afterExtras flags (rest.drop 6) with
          | none => .ok none
          | some rest =>
            if flags.testBit 1 then
              match rest with
              | low :: high :: after =>
                let sum := crc32 (bytes.take (bytes.length - rest.length))
                if littleEndian [low, high] = sum % 65536 then .ok (some after)
                else .error .headerSum
              | _ => .ok none
            else .ok (some rest)
      | _ => .ok none
  | _ => .ok none

/-- Unpacks data that end with a CRC-32 and their length. -/
def unpackGzip (bytes : List UInt8) : Except Damage (List UInt8) := do
  let some packed ← afterGzipHeader bytes | return []
  let (output, rest) ← inflate packed
  let rest := rest.getD []
  if let some check := word? rest then
    if check ≠ crc32 output then throw .dataSum
  if let some length := word? (rest.drop 4) then
    if length ≠ output.length % Nat.pow 2 32 then throw .dataLength
  return output

/-! ## No wrapping -/

/-- Unpacks data without a header. -/
def unpackRaw (bytes : List UInt8) : Except Damage (List UInt8) :=
  (inflate bytes).map Prod.fst

end Montage.Compression
