/-
  Montage.Text.Surrogate

  Halves of surrogate pairs.  JSON can name one half of a pair without the other, which
  is no character and has no form in UTF-8.  A text with such a half in it can be held and
  shown, but not encoded.

  Texts are made of characters, so a half is kept as one: the half `0xd800 + n` as the
  character `0x10f800 + n`.  The 2048 characters from U+10F800 on, the last of the private
  ones, are reserved for this.  A text in which one of them stands for itself is excluded:
  it would be taken for a text with a half in it, and refused where that one is.
-/
import Montage.Text.Digit

namespace Montage.Text.Surrogate

/-! ## Halves and pairs -/

def isHigh (code : Nat) : Bool := 0xd800 ≤ code && code ≤ 0xdbff

def isLow (code : Nat) : Bool := 0xdc00 ≤ code && code ≤ 0xdfff

/-- The first code point that both halves of a pair make together. -/
def pairBase : Nat := 0x10000

/-- The character of a pair. -/
def pair (high low : Nat) : Char :=
  Char.ofNat (pairBase + (high - 0xd800) * 1024 + (low - 0xdc00))

/-! ## Halves alone -/

/-- The first of the characters that halves are kept as. -/
def firstKept : Nat := 0x10f800

/-- The character that a code is kept as: itself, or the one for a half.  Codes from
    `firstKept` on are kept as themselves too, and cannot be told from halves. -/
def keep (code : Nat) : Char :=
  if isHigh code || isLow code then Char.ofNat (firstKept + (code - 0xd800)) else Char.ofNat code

/-- The half that a character is kept for. -/
def half? (c : Char) : Option Nat :=
  if firstKept ≤ c.toNat then some (c.toNat - firstKept + 0xd800) else none

def isHalf (c : Char) : Bool :=
  (half? c).isSome

/-- The escape sequence of a half. -/
def escape (code : Nat) : List Char :=
  '\\' :: 'u' :: hexText 4 code

/-- A JSON text with an escape sequence for each half, so that it can be encoded. -/
def escaped (text : String) : String :=
  String.ofList (text.toList.flatMap fun c => ((half? c).map escape).getD [c])

end Montage.Text.Surrogate
