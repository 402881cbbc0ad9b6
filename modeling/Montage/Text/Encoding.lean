/-
  Montage.Text.Encoding

  Text in bytes whose encoding is not said.  A text that begins with two ASCII characters
  shows by its zero bytes how many bytes a character has and which of them comes first.
  Halves of surrogate pairs may stand alone in the wider encodings.
-/
import Montage.Text.Surrogate
import Montage.Text.Utf8

namespace Montage.Text

inductive Encoding where
  | utf8
  | utf16 (highFirst : Bool)
  | utf32 (highFirst : Bool)
  deriving DecidableEq, Repr

namespace Encoding

/-- The encoding that the zeros among the first bytes tell of. -/
def detect (bytes : List UInt8) : Encoding :=
  match bytes with
  | [0, _] => .utf16 true
  | [_, 0] => .utf16 false
  | 0 :: 0 :: _ :: _ :: _ => .utf32 true
  | 0 :: _ :: _ :: _ :: _ => .utf16 true
  | _ :: 0 :: 0 :: 0 :: _ => .utf32 false
  | _ :: 0 :: _ :: _ :: _ => .utf16 false
  | _ => .utf8

/-- The number that bytes stand for. -/
def number (highFirst : Bool) (bytes : List UInt8) : Nat :=
  (if highFirst then bytes else bytes.reverse).foldl (fun n byte => 256 * n + byte.toNat) 0

/-- The codes of units of two bytes; pairs become one code. -/
def joinPairs : List Nat → List Char
  | [] => []
  | [unit] => [Surrogate.keep unit]
  | first :: second :: rest =>
    if Surrogate.isHigh first && Surrogate.isLow second then
      Surrogate.pair first second :: joinPairs rest
    else Surrogate.keep first :: joinPairs (second :: rest)

/-- The numbers of units of two bytes, unless a byte is left over. -/
def units16? (highFirst : Bool) : List UInt8 → Option (List Nat)
  | [] => some []
  | [_] => none
  | a :: b :: rest => (units16? highFirst rest).map (number highFirst [a, b] :: ·)

/-- The numbers of units of four bytes, unless bytes are left over. -/
def units32? (highFirst : Bool) : List UInt8 → Option (List Nat)
  | [] => some []
  | a :: b :: c :: d :: rest => (units32? highFirst rest).map (number highFirst [a, b, c, d] :: ·)
  | _ => none

/-- The largest code of a character. -/
def maxCode : Nat := 0x10ffff

/-- A text without the mark for the order of its bytes. -/
def withoutMark : List Char → List Char
  | '\ufeff' :: rest => rest
  | text => text

/-- Bytes as text, if they are one. -/
def decode? (encoding : Encoding) (bytes : List UInt8) : Option (List Char) :=
  match encoding with
  | .utf8 => (Utf8.decode bytes).toOption.map fun text => withoutMark text.toList
  | .utf16 highFirst => (units16? highFirst bytes).map joinPairs
  | .utf32 highFirst => do
    let codes ← units32? highFirst bytes
    if codes.all (· ≤ maxCode) then some (codes.map Surrogate.keep) else none

end Encoding

end Montage.Text
