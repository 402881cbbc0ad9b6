/-
  Montage.Compression.Inflate

  Unpacking deflated data: blocks of bytes as they are, and blocks of code words for
  bytes and for matches, which repeat bytes that were there before.
-/
import Montage.Compression.Damage
import Montage.Compression.PrefixCode

namespace Montage.Compression

/-! ## Bits -/

/-- The bits of bytes in the order in which they are read, the lowest one first. -/
def bitsOf (bytes : List UInt8) : List Bool :=
  bytes.flatMap fun byte => (List.range 8).map byte.toNat.testBit

/-- The number that bits stand for, the lowest one first. -/
def numberOf : List Bool → Nat
  | [] => 0
  | bit :: rest => bit.toNat + 2 * numberOf rest

/-- The bytes that whole groups of bits stand for. -/
def bytesOf : List Bool → List UInt8
  | a :: b :: c :: d :: e :: f :: g :: h :: rest =>
    UInt8.ofNat (numberOf [a, b, c, d, e, f, g, h]) :: bytesOf rest
  | _ => []

/-! ## The state of unpacking -/

/-- Why unpacking stops. -/
inductive Stop where
  /-- The data end too early; what has been unpacked stays. -/
  | endOfData
  | damaged (damage : Damage)
  deriving DecidableEq, Repr

structure Unpacking where
  /-- The bits that have not been read. -/
  bits : List Bool
  output : Array UInt8

/-- A part of unpacking. -/
abbrev Unpack := ExceptT Stop (StateM Unpacking)

def damaged {α : Type} (damage : Damage) : Unpack α :=
  throw (.damaged damage)

/-- Reads a number of so many bits. -/
def readNumber (width : Nat) : Unpack Nat := do
  let bits := (← get).bits
  let read := bits.take width
  if read.length < width then throw .endOfData
  modify fun state => { state with bits := bits.drop width }
  return numberOf read

/-- Leaves the rest of a byte that has been read in part. -/
def alignToByte : Unpack Unit :=
  modify fun state => { state with bits := state.bits.drop (state.bits.length % 8) }

/-- Reads a symbol; nothing stands for bits that are no word. -/
def readSymbol (code : PrefixCode) : Unpack (Option Nat) := do
  match code.find (← get).bits with
  | none => throw .endOfData
  | some (symbol, bits) =>
    modify fun state => { state with bits }
    return symbol

/-- Adds bytes to the output. -/
def emit (bytes : List UInt8) : Unpack Unit :=
  modify fun state => { state with output := state.output ++ bytes.toArray }

/-! ## Matches -/

/-- The bytes of a match, which may reach into itself. -/
def copyBack (distance : Nat) : Nat → Array UInt8 → Array UInt8
  | 0, output => output
  | length + 1, output => copyBack distance length (output.push (output.getD (output.size - distance) 0))

/-- The least length of each length symbol, with the bits that are added to it. -/
def matchLengths : List (Nat × Nat) :=
  [(3, 0), (4, 0), (5, 0), (6, 0), (7, 0), (8, 0), (9, 0), (10, 0), (11, 1), (13, 1), (15, 1),
   (17, 1), (19, 2), (23, 2), (27, 2), (31, 2), (35, 3), (43, 3), (51, 3), (59, 3), (67, 4),
   (83, 4), (99, 4), (115, 4), (131, 5), (163, 5), (195, 5), (227, 5), (258, 0)]

/-- The least distance of each distance symbol, with the bits that are added to it. -/
def matchDistances : List (Nat × Nat) :=
  [(1, 0), (2, 0), (3, 0), (4, 0), (5, 1), (7, 1), (9, 2), (13, 2), (17, 3), (25, 3), (33, 4),
   (49, 4), (65, 5), (97, 5), (129, 6), (193, 6), (257, 7), (385, 7), (513, 8), (769, 8),
   (1025, 9), (1537, 9), (2049, 10), (3073, 10), (4097, 11), (6145, 11), (8193, 12), (12289, 12),
   (16385, 13), (24577, 13)]

/-- Reads what a symbol of a table stands for. -/
def readAmount (table : List (Nat × Nat)) (missing : Damage) (symbol : Option Nat) : Unpack Nat := do
  match symbol.bind (table[·]?) with
  | none => damaged missing
  | some (least, width) => return least + (← readNumber width)

/-- Reads a match after its length symbol, and repeats its bytes. -/
def unpackMatch (distances : PrefixCode) (symbol : Nat) : Unpack Unit := do
  let length ← readAmount matchLengths .badLiteral (some symbol)
  let distance ← readAmount matchDistances .badDistance (← readSymbol distances)
  if (← get).output.size < distance then damaged .tooFarBack
  modify fun state => { state with output := copyBack distance length state.output }

/-! ## Blocks -/

/-- The symbol for the end of a block; bytes are below it, and lengths above. -/
def blockEnd : Nat := 256

/-- Reads bytes and matches up to the end of a block; the fuel is the number of bits. -/
def unpackSymbols (literals distances : PrefixCode) : Nat → Unpack Unit
  | 0 => throw .endOfData
  | fuel + 1 => do
    match ← readSymbol literals with
    | none => damaged .badLiteral
    | some symbol =>
      if symbol = blockEnd then return
      if symbol < blockEnd then emit [UInt8.ofNat symbol]
      else unpackMatch distances (symbol - blockEnd - 1)
      unpackSymbols literals distances fuel

/-- A block of bytes as they are. -/
def unpackStored : Unpack Unit := do
  alignToByte
  let length ← readNumber 16
  let check ← readNumber 16
  if length + check ≠ 0xffff then damaged .storedLength
  let bits := (← get).bits
  emit (bytesOf (bits.take (8 * length)))
  modify fun state => { state with bits := bits.drop (8 * length) }
  if bits.length < 8 * length then throw .endOfData

/-- The lengths of the fixed code for bytes and matches. -/
def fixedLiteralLengths : List Nat :=
  List.replicate 144 8 ++ List.replicate 112 9 ++ List.replicate 24 7 ++ List.replicate 8 8

/-- The lengths of the fixed code for distances. -/
def fixedDistanceLengths : List Nat :=
  List.replicate 32 5

/-- The order in which the lengths of the code for lengths are given. -/
def lengthOrder : List Nat :=
  [16, 17, 18, 0, 8, 7, 9, 6, 10, 5, 11, 4, 12, 3, 13, 2, 14, 1, 15]

/-- Reads so many numbers of three bits. -/
def readThrees : Nat → Unpack (List Nat)
  | 0 => return []
  | count + 1 => do
    let first ← readNumber 3
    return first :: (← readThrees count)

/-- Reads the lengths of words up to a number of them; `done` holds the lengths so far,
    the last one first, and the fuel is the number of bits. -/
def readLengths (code : PrefixCode) (total : Nat) (done : List Nat) : Nat → Unpack (List Nat)
  | 0 => throw .endOfData
  | fuel + 1 => do
    if total ≤ done.length then return done.reverse
    let again (length : Nat) (count : Nat) : Unpack (List Nat) :=
      if total < done.length + count then damaged .lengthRepeat
      else readLengths code total (List.replicate count length ++ done) fuel
    match (← readSymbol code).getD 0 with
    | 16 =>
      match done with
      | [] => do
        let _ ← readNumber 2
        damaged .lengthRepeat
      | last :: _ => again last (3 + (← readNumber 2))
    | 17 => again 0 (3 + (← readNumber 3))
    | 18 => again 0 (11 + (← readNumber 7))
    | length => again length 1

/-- The code with words of these lengths. -/
def codeOf (allowsSingle : Bool) (missing : Damage) (lengths : List Nat) : Unpack PrefixCode :=
  match PrefixCode.ofLengths? allowsSingle lengths with
  | some code => return code
  | none => damaged missing

/-- A block that begins with its codes. -/
def unpackDynamic : Unpack Unit := do
  let literalCount := (← readNumber 5) + 257
  let distanceCount := (← readNumber 5) + 1
  let lengthCount := (← readNumber 4) + 4
  if 286 < literalCount ∨ 30 < distanceCount then damaged .symbolCount
  let given := lengthOrder.zip (← readThrees lengthCount)
  let lengths ← codeOf false .lengthCode ((List.range 19).map fun symbol =>
    (given.lookup symbol).getD 0)
  let all ← readLengths lengths (literalCount + distanceCount) [] ((← get).bits.length + 1)
  if all[blockEnd]?.getD 0 = 0 then damaged .noBlockEnd
  let literals ← codeOf true .literalCode (all.take literalCount)
  let distances ← codeOf true .distanceCode (all.drop literalCount)
  unpackSymbols literals distances ((← get).bits.length + 1)

/-- A block with the fixed codes. -/
def unpackFixed : Unpack Unit := do
  let literals ← codeOf true .literalCode fixedLiteralLengths
  let distances ← codeOf true .distanceCode fixedDistanceLengths
  unpackSymbols literals distances ((← get).bits.length + 1)

/-- Unpacks blocks up to the last one; the fuel is the number of bits. -/
def unpackBlocks : Nat → Unpack Unit
  | 0 => throw .endOfData
  | fuel + 1 => do
    let head ← readNumber 3
    match head / 2 with
    | 0 => unpackStored
    | 1 => unpackFixed
    | 2 => unpackDynamic
    | _ => damaged .blockType
    if head % 2 = 0 then unpackBlocks fuel

/-- What bytes unpack to, and the bytes that follow the last block; nothing follows
    where the data end too early. -/
def inflate (bytes : List UInt8) : Except Damage (List UInt8 × Option (List UInt8)) :=
  let (result, state) := (unpackBlocks (8 * bytes.length + 1)).run ⟨bitsOf bytes, #[]⟩
  match result with
  | .ok () => .ok (state.output.toList, some (bytesOf (state.bits.drop (state.bits.length % 8))))
  | .error .endOfData => .ok (state.output.toList, none)
  | .error (.damaged damage) => .error damage

end Montage.Compression
