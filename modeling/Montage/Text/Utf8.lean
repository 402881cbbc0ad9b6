/-
  Montage.Text.Utf8

  UTF-8, one byte at a time.  The decoder keeps what is known of an unfinished
  character: how many bytes it still needs and which byte may come next.  Damaged
  text is either replaced, one mark for each maximal damaged part, or refused with
  the place of the damage.
-/
import Montage.Text.Digit

namespace Montage.Text.Utf8

/-- An unfinished character: how many bytes it still needs, the least and the greatest
    value of the next one, and the bits so far. -/
structure Pending where
  owed : Nat
  least : Nat
  greatest : Nat
  bits : Nat
  deriving DecidableEq, Repr

/-- What a byte that fits leads to. -/
inductive Fit where
  | complete (c : Char)
  | unfinished (pending : Pending)
  deriving DecidableEq, Repr

/-- The first byte of a character, if a character can start with it. -/
def first (byte : Nat) : Option Fit :=
  if byte < 0x80 then some (.complete (Char.ofNat byte))
  else if 0xc2 ≤ byte ∧ byte ≤ 0xdf then some (.unfinished ⟨1, 0x80, 0xbf, byte - 0xc0⟩)
  else if byte = 0xe0 then some (.unfinished ⟨2, 0xa0, 0xbf, 0⟩)
  else if byte = 0xed then some (.unfinished ⟨2, 0x80, 0x9f, 0xd⟩)
  else if 0xe1 ≤ byte ∧ byte ≤ 0xef then some (.unfinished ⟨2, 0x80, 0xbf, byte - 0xe0⟩)
  else if byte = 0xf0 then some (.unfinished ⟨3, 0x90, 0xbf, 0⟩)
  else if 0xf1 ≤ byte ∧ byte ≤ 0xf3 then some (.unfinished ⟨3, 0x80, 0xbf, byte - 0xf0⟩)
  else if byte = 0xf4 then some (.unfinished ⟨3, 0x80, 0x8f, 4⟩)
  else none

/-- A further byte of a character, if it fits. -/
def next (pending : Pending) (byte : Nat) : Option Fit :=
  if pending.least ≤ byte ∧ byte ≤ pending.greatest then
    let bits := 64 * pending.bits + (byte - 0x80)
    if pending.owed ≤ 1 then some (.complete (Char.ofNat bits))
    else some (.unfinished ⟨pending.owed - 1, 0x80, 0xbf, bits⟩)
  else none

/-! ## Decoding with replacement -/

/-- Where a decoder stands: between characters or inside one. -/
abbrev Decoder := Option Pending

/-- The mark that stands for a damaged part. -/
def replacement : Char := Char.ofNat 0xfffd

/-- A byte between characters. -/
def decodeFirst (byte : UInt8) : List Char × Decoder :=
  match first byte.toNat with
  | some (.complete c) => ([c], none)
  | some (.unfinished pending) => ([], some pending)
  | none => ([replacement], none)

/-- One byte.  A byte that does not fit ends the damaged part before it and is read
    again as the first of a character. -/
def decodeByte (decoder : Decoder) (byte : UInt8) : List Char × Decoder :=
  match decoder with
  | none => decodeFirst byte
  | some pending =>
    match next pending byte.toNat with
    | some (.complete c) => ([c], none)
    | some (.unfinished pending) => ([], some pending)
    | none =>
      let (chars, decoder) := decodeFirst byte
      (replacement :: chars, decoder)

/-- The characters that a run of bytes completes, and the decoder after it. -/
def decodeChunk (decoder : Decoder) : List UInt8 → List Char × Decoder
  | [] => ([], decoder)
  | byte :: rest =>
    let (chars, decoder) := decodeByte decoder byte
    let (more, decoder) := decodeChunk decoder rest
    (chars ++ more, decoder)

/-- It does not matter where a stream of bytes is cut. -/
theorem decodeChunk_append (decoder : Decoder) (first second : List UInt8) :
    decodeChunk decoder (first ++ second) =
      ((decodeChunk decoder first).1 ++ (decodeChunk (decodeChunk decoder first).2 second).1,
        (decodeChunk (decodeChunk decoder first).2 second).2) := by
  induction first generalizing decoder with
  | nil => simp [decodeChunk]
  | cons byte rest ih => simp [decodeChunk, ih, List.append_assoc]

/-- Bytes as text, damaged parts and an unfinished end replaced. -/
def decodeLossy (bytes : List UInt8) : String :=
  let (chars, decoder) := decodeChunk none bytes
  String.ofList (if decoder.isSome then chars ++ [replacement] else chars)

/-! ## Decoding of undamaged text -/

/-- What is wrong with bytes that are no text: the damaged part and the reason. -/
structure Damage where
  start : Nat
  bytes : List UInt8
  reason : String
  deriving DecidableEq, Repr

/-- The message about damage. -/
def Damage.message (damage : Damage) : String :=
  let place :=
    match damage.bytes with
    | [byte] =>
      "byte 0x" ++ String.ofList (hexByte false byte) ++ " in position " ++ damage.start.repr
    | bytes =>
      "bytes in position " ++ damage.start.repr ++ "-" ++ (damage.start + bytes.length - 1).repr
  "'utf-8' codec can't decode " ++ place ++ ": " ++ damage.reason

/-- The rest of a text from a position on; `part` holds the bytes of the unfinished
    character, last one first. -/
def decodeFrom (position : Nat) (part : List UInt8) (decoder : Decoder) :
    List UInt8 → Except Damage (List Char)
  | [] =>
    match decoder with
    | none => .ok []
    | some _ => .error ⟨position - part.length, part.reverse, "unexpected end of data"⟩
  | byte :: rest =>
    match decoder with
    | none =>
      match first byte.toNat with
      | some (.complete c) => (decodeFrom (position + 1) [] none rest).map (c :: ·)
      | some (.unfinished pending) => decodeFrom (position + 1) [byte] (some pending) rest
      | none => .error ⟨position, [byte], "invalid start byte"⟩
    | some pending =>
      match next pending byte.toNat with
      | some (.complete c) => (decodeFrom (position + 1) [] none rest).map (c :: ·)
      | some (.unfinished pending) => decodeFrom (position + 1) (byte :: part) (some pending) rest
      | none =>
        .error ⟨position - part.length, part.reverse, "invalid continuation byte"⟩

/-- Bytes as text. -/
def decode (bytes : List UInt8) : Except Damage String :=
  (decodeFrom 0 [] none bytes).map String.ofList

/-- A text as bytes. -/
def encode (text : String) : List UInt8 :=
  text.toUTF8.toList

end Montage.Text.Utf8
