/-
  Montage.Asset.Digest

  The SHA-1 digest of a run of bytes (FIPS 180-4), on 32-bit words.
-/
import Montage.Text.Digit

namespace Montage.Asset.Digest

/-! ## Padding -/

/-- A number as bytes, most significant first. -/
def bigEndian (width value : Nat) : List UInt8 :=
  (List.range width).reverse.map fun place => UInt8.ofNat (value / Nat.pow 256 place % 256)

/-- A message with a one bit, zeros up to eight bytes before the end of a block, and its
    length in bits. -/
def padded (message : List UInt8) : List UInt8 :=
  let zeros := (119 - message.length % 64) % 64
  message ++ 0x80 :: List.replicate zeros 0 ++ bigEndian 8 (8 * message.length)

/-- Four bytes as one word. -/
def word (a b c d : UInt8) : UInt32 :=
  (a.toUInt32 <<< 24) ||| (b.toUInt32 <<< 16) ||| (c.toUInt32 <<< 8) ||| d.toUInt32

/-- Bytes as words; an incomplete word at the end is left out. -/
def words : List UInt8 → List UInt32
  | a :: b :: c :: d :: rest => word a b c d :: words rest
  | _ => []

/-! ## Compression -/

def rotateLeft (x : UInt32) (count : UInt32) : UInt32 :=
  (x <<< count) ||| (x >>> (32 - count))

/-- The five words of the state. -/
structure State where
  a : UInt32
  b : UInt32
  c : UInt32
  d : UInt32
  e : UInt32

def initial : State :=
  ⟨0x67452301, 0xefcdab89, 0x98badcfe, 0x10325476, 0xc3d2e1f0⟩

/-- The eighty words that a block is expanded to; `recent` holds the last sixteen, the
    newest first. -/
def expand : Nat → List UInt32 → List UInt32
  | 0, _ => []
  | count + 1, recent =>
    let old (i : Nat) := recent.getD i 0
    let next := rotateLeft (old 2 ^^^ old 7 ^^^ old 13 ^^^ old 15) 1
    next :: expand count ((next :: recent).take 16)

def schedule (block : List UInt32) : List UInt32 :=
  block ++ expand 64 block.reverse

/-- The mixing function and the constant of a round. -/
def mix (round : Nat) (s : State) : UInt32 × UInt32 :=
  if round < 20 then ((s.b &&& s.c) ||| ((~~~ s.b) &&& s.d), 0x5a827999)
  else if round < 40 then (s.b ^^^ s.c ^^^ s.d, 0x6ed9eba1)
  else if round < 60 then ((s.b &&& s.c) ||| (s.b &&& s.d) ||| (s.c &&& s.d), 0x8f1bbcdc)
  else (s.b ^^^ s.c ^^^ s.d, 0xca62c1d6)

/-- The rounds of a block from one on. -/
def rounds (round : Nat) (s : State) : List UInt32 → State
  | [] => s
  | w :: rest =>
    let (f, k) := mix round s
    let a := rotateLeft s.a 5 + f + s.e + k + w
    rounds (round + 1) ⟨a, s.a, rotateLeft s.b 30, s.c, s.d⟩ rest

def compress (s : State) (block : List UInt32) : State :=
  let t := rounds 0 s (schedule block)
  ⟨s.a + t.a, s.b + t.b, s.c + t.c, s.d + t.d, s.e + t.e⟩

/-- The state after a list of words, block by block; the fuel is the number of words. -/
def absorb : Nat → State → List UInt32 → State
  | 0, s, _ => s
  | fuel + 1, s, ws => if ws.isEmpty then s else absorb fuel (compress s (ws.take 16)) (ws.drop 16)

/-! ## Digest -/

/-- The twenty bytes of the digest. -/
def digest (message : List UInt8) : List UInt8 :=
  let ws := words (padded message)
  let s := absorb ws.length initial ws
  [s.a, s.b, s.c, s.d, s.e].flatMap fun w => bigEndian 4 w.toNat

/-- The digest as lower-case hexadecimal text. -/
def hex (message : List UInt8) : String :=
  Text.hexOfBytes (digest message)

end Montage.Asset.Digest
