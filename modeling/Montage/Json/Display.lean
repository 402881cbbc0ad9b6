/-
  Montage.Json.Display

  Values as messages and filter parameters show them: a text stands for itself, but
  texts inside lists and objects are quoted literals.
-/
import Montage.Json.Basic
import Montage.Number.Decimal
import Montage.Text.Literal

namespace Montage.Json

open Montage.Number Montage.Text

/-- Doubles on display: positional from `1e-4` up to `1e16`, always with a point when
    positional, exponents of at least two digits. -/
def displayLayout : Decimal.Layout :=
  { positionalFrom := -4, positionalBelow := 16, exponentDigits := 2, keepsPoint := true }

/-- A double on display. -/
def realDisplay : Binary64 → String
  | .nan => "nan"
  | .infinite negative => Decimal.signText negative ++ "inf"
  | .finite negative units => displayLayout.finite negative units

def scalarDisplay : Scalar → String
  | .int i => toString i
  | .real x => realDisplay x

mutual

/-- A value inside a list or object. -/
def nested : Json → String
  | .null => "None"
  | .bool true => "True"
  | .bool false => "False"
  | .num x => scalarDisplay x
  | .str text => literal text
  | .arr items => "[" ++ nestedItems items ++ "]"
  | .obj fields => "\x7b" ++ nestedFields fields ++ "\x7d"

def nestedItems : List Json → String
  | [] => ""
  | [item] => nested item
  | item :: rest => nested item ++ ", " ++ nestedItems rest

def nestedFields : List (String × Json) → String
  | [] => ""
  | [(key, value)] => literal key ++ ": " ++ nested value
  | (key, value) :: rest => literal key ++ ": " ++ nested value ++ ", " ++ nestedFields rest

end

/-- A value on display. -/
def display : Json → String
  | .str text => text
  | other => nested other

end Montage.Json
