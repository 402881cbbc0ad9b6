/-
  Montage.Jobs.Cell

  The forms that values take in the columns of the table.  A column of numbers holds
  integers of 64 bits and doubles, a column of texts turns numbers into texts, and
  nothing stands where a value is null.
-/
import Montage.Json.Real
import Montage.Number.Decimal

namespace Montage.Jobs.Cell

open Montage.Number

/-! ## Numbers -/

/-- The first magnitude that does not fit into 64 bits with a sign. -/
def integerLimit : Nat := Nat.pow 2 63

/-- An integer that a column can hold. -/
def integer (i : Int) : Except Fault Int :=
  if -(integerLimit : Int) ≤ i ∧ i < integerLimit then .ok i
  else .error (.outOfRange "Python int too large to convert to SQLite INTEGER")

/-- A double in a column of integers, which turns whole numbers into integers. -/
def wholeOrReal (x : Binary64) : Option Scalar :=
  match x with
  | .nan => none
  | x =>
    match x.toInt? with
    | some i => some (if i.natAbs < integerLimit then .int i else .real x)
    | none => some (.real x)

/-- A value in a column of integers. -/
def number : Json → Except Fault (Option Scalar)
  | .null => .ok none
  | .bool flag => .ok (some (.int (if flag then 1 else 0)))
  | .num (.int i) => (integer i).map fun i => some (.int i)
  | .num (.real x) => .ok (wholeOrReal x)
  | value => .error (.wrongType ("type '" ++ value.typeName ++ "' is not supported"))

/-- A value in a column of doubles, where zero has no sign and a NaN is nothing. -/
def real : Json → Except Fault (Option Binary64)
  | .null => .ok none
  | value => do
    match ← value.toReal with
    | .nan => return none
    | x => return some (if x.eq .zero then .zero else x)

/-! ## Texts -/

/-- How many digits the text of a double shows. -/
def realDigits : Nat := 15

/-- A positive decimal in text, which always has a point with a digit after it. -/
def decimalText (d : Decimal.Scaled) : String :=
  if -4 ≤ d.leading ∧ d.leading < realDigits then Decimal.positional true d
  else Decimal.scientific 2 (if d.significand < 10 then ⟨10 * d.significand, d.exponent - 1⟩ else d)

/-- A double in a column of texts. -/
def realText? : Binary64 → Option String
  | .nan => none
  | .infinite negative => some (Decimal.signText negative ++ "Inf")
  | .finite negative units =>
    if units = 0 then some "0.0"
    else
      some (Decimal.signText negative ++ decimalText (Decimal.roundToDigits realDigits units).trimZeros)

/-- A value in a column of texts. -/
def text : Json → Except Fault (Option String)
  | .str text =>
    match Text.utf8Refusal? text.toList with
    | some reason => .error (.unencodable reason)
    | none => .ok (some text)
  | .num (.real x) => .ok (realText? x)
  | value => do
    match ← number value with
    | some (.int i) => return some (toString i)
    | _ => return none

end Montage.Jobs.Cell
