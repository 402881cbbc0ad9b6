/-
  Montage.Text.Codec

  Why a text cannot be put into bytes: its first character, or its first run of
  characters, that has no form there.
-/
import Montage.Text.Surrogate

namespace Montage.Text

/-- The code of a character, or of the half of a pair that it is kept for. -/
def codeOf (c : Char) : Nat :=
  (Surrogate.half? c).getD c.toNat

/-- The escape sequence for a code. -/
def codeEscape (code : Nat) : List Char :=
  if code < 0x100 then '\\' :: 'x' :: hexText 2 code
  else if code < 0x10000 then '\\' :: 'u' :: hexText 4 code
  else '\\' :: 'U' :: hexText 8 code

/-- The characters of a text that do not fit, and why. -/
def refusal? (codec reason : String) (fits : Char → Bool) (text : List Char) : Option String :=
  let start := (text.takeWhile fits).length
  let run := (text.drop start).takeWhile fun c => !fits c
  let place : Option String :=
    match run with
    | [] => none
    | [c] =>
      some ("character '" ++ String.ofList (codeEscape (codeOf c)) ++ "' in position " ++ start.repr)
    | _ =>
      some ("characters in position " ++ start.repr ++ "-" ++ (start + run.length - 1).repr)
  place.map fun place => "'" ++ codec ++ "' codec can't encode " ++ place ++ ": " ++ reason

/-- Why a text has no form in UTF-8: halves of surrogate pairs. -/
def utf8Refusal? (text : List Char) : Option String :=
  refusal? "utf-8" "surrogates not allowed" (fun c => !Surrogate.isHalf c) text

/-- Why a text has no form in ASCII. -/
def asciiRefusal? (text : List Char) : Option String :=
  refusal? "ascii" "ordinal not in range(128)" (fun c => c.toNat < 128) text

end Montage.Text
