/-
  Montage.Json.Writer

  Compact JSON text.  Characters beyond ASCII stand for themselves, control
  characters are escaped, and numbers that JSON cannot express become `null`.
-/
import Montage.Json.Basic
import Montage.Number.Decimal
import Montage.Text.Digit

namespace Montage.Json

open Montage.Number Montage.Text

/-- Doubles in JSON text: positional from `1e-5` up to `1e16`, and always with a point
    or an exponent. -/
def numberLayout : Decimal.Layout :=
  { positionalFrom := -5, positionalBelow := 16, exponentDigits := 1, keepsPoint := true }

/-- A double in JSON text. -/
def realText : Binary64 → String
  | .finite negative units => numberLayout.finite negative units
  | _ => "null"

def scalarText : Scalar → String
  | .int i => toString i
  | .real x => realText x

/-- One character inside a JSON string. -/
def stringChar (c : Char) : List Char :=
  if c = '"' ∨ c = '\\' then ['\\', c]
  else if c = '\x08' then ['\\', 'b']
  else if c = '\t' then ['\\', 't']
  else if c = '\n' then ['\\', 'n']
  else if c = '\x0c' then ['\\', 'f']
  else if c = '\r' then ['\\', 'r']
  else if c.toNat < 0x20 then '\\' :: 'u' :: hexText 4 c.toNat
  else [c]

/-- A text as a JSON string. -/
def stringText (text : String) : String :=
  String.ofList ('"' :: text.toList.flatMap stringChar ++ ['"'])

mutual

/-- A value as compact JSON text. -/
def write : Json → String
  | .null => "null"
  | .bool true => "true"
  | .bool false => "false"
  | .num x => scalarText x
  | .str text => stringText text
  | .arr items => "[" ++ writeItems items ++ "]"
  | .obj fields => "\x7b" ++ writeFields fields ++ "\x7d"

/-- The items of a list with commas between them. -/
def writeItems : List Json → String
  | [] => ""
  | [item] => write item
  | item :: rest => write item ++ "," ++ writeItems rest

/-- The fields of an object with commas between them. -/
def writeFields : List (String × Json) → String
  | [] => ""
  | [(key, value)] => stringText key ++ ":" ++ write value
  | (key, value) :: rest => stringText key ++ ":" ++ write value ++ "," ++ writeFields rest

end

end Montage.Json
