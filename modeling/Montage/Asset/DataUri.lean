/-
  Montage.Asset.DataUri

  Data URIs: a media type and a payload in the URI itself, either in base64 or with
  escaped bytes.
-/
import Montage.Fault
import Montage.Text.Codec
import Montage.Text.Percent

namespace Montage.Asset

open Montage.Text

/-! ## Base64 -/

/-- The six bits that a character of base64 stands for. -/
def sextet? (c : Char) : Option Nat :=
  if 'A' ≤ c ∧ c ≤ 'Z' then some (c.toNat - 65)
  else if 'a' ≤ c ∧ c ≤ 'z' then some (c.toNat - 71)
  else if '0' ≤ c ∧ c ≤ '9' then some (c.toNat + 4)
  else if c = '+' then some 62
  else if c = '/' then some 63
  else none

/-- Where a reader of base64 stands: what it has of an incomplete group of four. -/
structure Base64 where
  /-- How many characters of the group have come. -/
  filled : Nat := 0
  /-- The bits that belong to the next byte. -/
  carry : Nat := 0
  /-- How many padding characters have come since the last other character. -/
  pads : Nat := 0
  /-- Whether any padding has come. -/
  padding : Bool := false
  /-- How many bytes are complete. -/
  count : Nat := 0

/-- The byte that a further sextet completes, and the reader after it. -/
def Base64.take (sextet : Nat) (reader : Base64) : Option UInt8 × Base64 :=
  match reader.filled with
  | 0 => (none, { reader with filled := 1, carry := sextet, pads := 0 })
  | 1 =>
    (some (UInt8.ofNat (reader.carry * 4 + sextet / 16)),
      { reader with filled := 2, carry := sextet % 16, pads := 0, count := reader.count + 1 })
  | 2 =>
    (some (UInt8.ofNat (reader.carry * 16 + sextet / 4)),
      { reader with filled := 3, carry := sextet % 4, pads := 0, count := reader.count + 1 })
  | _ =>
    (some (UInt8.ofNat (reader.carry * 64 + sextet)),
      { reader with filled := 0, carry := 0, pads := 0, count := reader.count + 1 })

/-- The bytes of the rest of a base64 text. -/
def Base64.read (reader : Base64) : List Char → Except Fault (List UInt8)
  | [] =>
    match reader.filled with
    | 0 => .ok []
    | 1 =>
      .error (.badEncoding
        ("Invalid base64-encoded string: number of data characters (" ++
          (reader.count / 3 * 4 + 1).repr ++ ") cannot be 1 more than a multiple of 4"))
    | _ => .error (.badEncoding "Incorrect padding")
  | c :: rest =>
    if c = '=' then
      if 2 ≤ reader.filled then
        if 4 ≤ reader.filled + reader.pads + 1 then
          if rest.isEmpty then .ok [] else .error (.badEncoding "Excess data after padding")
        else read { reader with pads := reader.pads + 1, padding := true } rest
      else read { reader with padding := true } rest
    else
      match sextet? c with
      | none => .error (.badEncoding "Only base64 data is allowed")
      | some sextet =>
        if reader.padding then .error (.badEncoding "Discontinuous padding not allowed")
        else
          let (byte, reader) := reader.take sextet
          (reader.read rest).map (byte.toList ++ ·)

/-- The bytes that a base64 text stands for. -/
def base64 (text : List Char) : Except Fault (List UInt8) :=
  if text.any fun c => 128 ≤ c.toNat then
    .error (.malformed "string argument should contain only ASCII characters")
  else if text.head? = some '=' then .error (.badEncoding "Leading padding not allowed")
  else Base64.read {} text

/-! ## URIs -/

/-- The payload of a data URI and its media type. -/
structure DataUri where
  payload : List UInt8
  mediaType : String
  deriving DecidableEq, Repr

/-- The mark at the end of the header of a base64 payload. -/
def base64Mark : List Char := ";base64".toList

/-- Reads a data URI.  Its first five characters are the scheme. -/
def decodeDataUri (uri : String) : Except Fault DataUri :=
  let body := uri.toList.drop 5
  let header := body.takeWhile (· != ',')
  match body.drop header.length with
  | [] => .error (.malformed "data URI has no payload separator")
  | _ :: payload =>
    let named := header.takeWhile (· != ';')
    let mediaType := if named.isEmpty then "text/plain" else String.ofList named
    if base64Mark.isSuffixOf header then
      (base64 payload).map fun bytes => ⟨bytes, mediaType⟩
    else
      match utf8Refusal? payload with
      | some reason => .error (.unencodable reason)
      | none => .ok ⟨unescape (Utf8.encode (String.ofList payload)), mediaType⟩

end Montage.Asset
