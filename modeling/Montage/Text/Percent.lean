/-
  Montage.Text.Percent

  Percent signs with two hexadecimal digits that stand for bytes.
-/
import Montage.Text.Utf8

namespace Montage.Text

/-- Bytes with their escapes resolved; a malformed escape stands for itself. -/
def unescape : List UInt8 → List UInt8
  | percent :: high :: low :: rest =>
    if percent = 0x25 then
      match hexValue? (Char.ofNat high.toNat), hexValue? (Char.ofNat low.toNat) with
      | some h, some l => UInt8.ofNat (16 * h + l) :: unescape rest
      | _, _ => percent :: unescape (high :: low :: rest)
    else percent :: unescape (high :: low :: rest)
  | short => short

/-- A text with its escapes resolved, damaged parts replaced. -/
def unescapeText (text : String) : String :=
  Utf8.decodeLossy (unescape (Utf8.encode text))

/-- A character as the escapes of its bytes. -/
def escapeChar (c : Char) : List Char :=
  (Utf8.encode (String.singleton c)).flatMap fun byte => '%' :: hexByte true byte

end Montage.Text
