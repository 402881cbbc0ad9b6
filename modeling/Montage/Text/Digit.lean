/-
  Montage.Text.Digit

  The decimal digits of every script (general category Nd of Unicode 14): runs of ten
  code points with the values 0 to 9.  Hexadecimal digits, for bytes and for escape
  sequences.
-/

namespace Montage.Text

/-! ## Decimal digits -/

/-- The code points of the digits zero. -/
def decimalZeros : List Nat := [
    0x30, 0x660, 0x6f0, 0x7c0, 0x966, 0x9e6, 0xa66, 0xae6, 0xb66, 0xbe6, 0xc66, 0xce6, 0xd66,
    0xde6, 0xe50, 0xed0, 0xf20, 0x1040, 0x1090, 0x17e0, 0x1810, 0x1946, 0x19d0, 0x1a80, 0x1a90,
    0x1b50, 0x1bb0, 0x1c40, 0x1c50, 0xa620, 0xa8d0, 0xa900, 0xa9d0, 0xa9f0, 0xaa50, 0xabf0,
    0xff10, 0x104a0, 0x10d30, 0x11066, 0x110f0, 0x11136, 0x111d0, 0x112f0, 0x11450, 0x114d0,
    0x11650, 0x116c0, 0x11730, 0x118e0, 0x11950, 0x11c50, 0x11d50, 0x11da0, 0x16a60, 0x16ac0,
    0x16b50, 0x1d7ce, 0x1d7d8, 0x1d7e2, 0x1d7ec, 0x1d7f6, 0x1e140, 0x1e2f0, 0x1e950, 0x1fbf0
  ]

/-- The value of a decimal digit of any script. -/
def digitValue? (c : Char) : Option Nat :=
  (decimalZeros.find? fun first => first ≤ c.toNat && c.toNat < first + 10).map (c.toNat - ·)

/-- Whether a character is a decimal digit of some script. -/
def isDigit (c : Char) : Bool :=
  (digitValue? c).isSome

/-! ## Hexadecimal digits -/

/-- The hexadecimal digit of a value below sixteen. -/
def hexDigit (upper : Bool) (value : Nat) : Char :=
  if value < 10 then Char.ofNat (48 + value)
  else Char.ofNat ((if upper then 55 else 87) + value)

/-- The value of a hexadecimal digit in either case. -/
def hexValue? (c : Char) : Option Nat :=
  let n := c.toNat
  if 48 ≤ n ∧ n ≤ 57 then some (n - 48)
  else if 97 ≤ n ∧ n ≤ 102 then some (n - 87)
  else if 65 ≤ n ∧ n ≤ 70 then some (n - 55)
  else none

/-- A number below `16 ^ width` as that many lower-case hexadecimal digits. -/
def hexText (width value : Nat) : List Char :=
  (List.range width).reverse.map fun place => hexDigit false (value / Nat.pow 16 place % 16)

/-- A byte as two hexadecimal digits. -/
def hexByte (upper : Bool) (byte : UInt8) : List Char :=
  [hexDigit upper (byte.toNat / 16), hexDigit upper (byte.toNat % 16)]

/-- Bytes as lower-case hexadecimal text. -/
def hexOfBytes (bytes : List UInt8) : String :=
  String.ofList (bytes.flatMap (hexByte false))

/-- Bytes read from hexadecimal text; an incomplete or malformed pair ends the
    reading. -/
def bytesOfHex : List Char → List UInt8
  | high :: low :: rest =>
    match hexValue? high, hexValue? low with
    | some h, some l => UInt8.ofNat (16 * h + l) :: bytesOfHex rest
    | _, _ => []
  | _ => []

end Montage.Text
