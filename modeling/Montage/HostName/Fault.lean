/-
  Montage.HostName.Fault

  What can be wrong with the name of a host.
-/
import Montage.Text.Literal

namespace Montage.HostName

open Montage.Text

/-- A way in which the directions of a label do not go together. -/
inductive DirectionFault where
  /-- A character whose direction is not known, at a place counted from one. -/
  | unknown (position : Nat)
  | first
  | inRightToLeft (position : Nat)
  | inLeftToRight (position : Nat)
  | mixedNumbers
  | ending
  deriving DecidableEq, Repr

/-- Why a name is no host name. -/
inductive Fault where
  | nameTooLong
  | emptyName
  | labelTooLong
  | emptyLabel
  | notComposed
  /-- Hyphens stand where the prefix of an encoded label has them. -/
  | prefixHyphens
  | outerHyphen
  | initialMark
  /-- A character may not stand in a label. -/
  | character (c : Char) (position : Nat) (label : List Char)
  /-- A character may not stand beside those it stands beside. -/
  | context (c : Char) (position : Nat) (label : List Char)
  /-- A joiner may not stand beside the characters it stands beside. -/
  | joiner (c : Char) (position : Nat) (label : List Char)
  | direction (fault : DirectionFault) (label : List Char)
  /-- Nothing follows the prefix of an encoded label. -/
  | emptyCode
  | codeHyphen
  | badCode
  deriving DecidableEq, Repr

/-- The code of a character as messages name it. -/
def codeName (c : Char) : String :=
  let code := codeOf c
  let width := if code < 0x10000 then 4 else if code < 0x100000 then 5 else 6
  "U+" ++ String.ofList ((hexText width code).map Char.toUpper)

def quoted (label : List Char) : String :=
  literal (String.ofList label)

def DirectionFault.message (label : List Char) : DirectionFault → String
  | .unknown position =>
    "Unknown directionality in label " ++ quoted label ++ " at position " ++ position.repr
  | .first => "First codepoint in label " ++ quoted label ++ " must be directionality L, R or AL"
  | .inRightToLeft position =>
    "Invalid direction for codepoint at position " ++ position.repr ++ " in a right-to-left label"
  | .inLeftToRight position =>
    "Invalid direction for codepoint at position " ++ position.repr ++ " in a left-to-right label"
  | .mixedNumbers => "Can not mix numeral types in a right-to-left label"
  | .ending => "Label ends with illegal codepoint directionality"

def Fault.message : Fault → String
  | .nameTooLong => "Domain too long"
  | .emptyName => "Empty domain"
  | .labelTooLong => "Label too long"
  | .emptyLabel => "Empty Label"
  | .notComposed => "Label must be in Normalization Form C"
  | .prefixHyphens => "Label has disallowed hyphens in 3rd and 4th position"
  | .outerHyphen => "Label must not start or end with a hyphen"
  | .initialMark => "Label begins with an illegal combining character"
  | .character c position label =>
    "Codepoint " ++ codeName c ++ " at position " ++ position.repr ++ " of " ++ quoted label ++
      " not allowed"
  | .context c position label =>
    "Codepoint " ++ codeName c ++ " not allowed at position " ++ position.repr ++ " in " ++
      quoted label
  | .joiner c position label =>
    "Unknown codepoint adjacent to joiner " ++ codeName c ++ " at position " ++ position.repr ++
      " in " ++ quoted label
  | .direction fault label => fault.message label
  | .emptyCode => "Malformed A-label, no Punycode eligible content found"
  | .codeHyphen => "A-label must not end with a hyphen"
  | .badCode => "Invalid A-label"

end Montage.HostName
