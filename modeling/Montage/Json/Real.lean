/-
  Montage.Json.Real

  The doubles that values stand for: numbers, flags, and numerals in a text.
-/
import Montage.Fault
import Montage.Json.Basic
import Montage.Number.Numeral
import Montage.Text.Blank
import Montage.Text.Digit

namespace Montage.Json

open Montage.Number Montage.Text

/-- A double written as text, with digits of any script. -/
def realOfText (text : String) : Except Montage.Fault Binary64 :=
  match Numeral.double? digitValue? (trimBy isWhiteSpace text.toList) with
  | some x => .ok x
  | none => .error (.malformed ("could not convert string to float: " ++ literal text))

/-- The double that a number, a flag or a text stands for. -/
def toReal : Json → Except Montage.Fault Binary64
  | .num x => x.toReal.mapError .arithmetic
  | .bool flag => .ok (.ofNat (if flag then 1 else 0))
  | .str text => realOfText text
  | value =>
    .error (.wrongType
      ("float() argument must be a string or a real number, not '" ++ value.typeName ++ "'"))

end Montage.Json
