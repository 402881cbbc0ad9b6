/-
  Montage.Api.Id

  The spellings of ids: thirty-two hexadecimal digits, or the same in groups with hyphens
  between them, perhaps in braces or behind a mark.
-/
import Montage.Text.Digit

namespace Montage.Api

open Montage.Text

/-- The positions of the hyphens in an id. -/
def hyphenPositions : List Nat := [8, 13, 18, 23]

/-- An id in groups of hexadecimal digits with hyphens between them. -/
def isHyphenated (text : List Char) : Bool :=
  text.length == 36 && text.zipIdx.all fun (c, position) =>
    if hyphenPositions.contains position then c == '-' else (hexValue? c).isSome

/-- Thirty-two digits with the hyphens put in. -/
def hyphenate (digits : List Char) : List Char :=
  digits.take 8 ++ '-' :: (digits.drop 8).take 4 ++ '-' :: (digits.drop 12).take 4 ++
    '-' :: (digits.drop 16).take 4 ++ '-' :: digits.drop 20

/-- An id in one of its spellings, in lower case with hyphens. -/
def idText? (text : String) : Option String :=
  let chars := text.toList
  let plain : Option (List Char) :=
    if chars.length = 32 ∧ chars.all (fun c => (hexValue? c).isSome) then some (hyphenate chars)
    else
      let inner :=
        if chars.length = 38 ∧ chars.head? = some '\x7b' ∧ chars.getLast? = some '\x7d' then
          (chars.drop 1).dropLast
        else if chars.length = 45 ∧ "urn:uuid:".toList.isPrefixOf chars then chars.drop 9
        else chars
      if isHyphenated inner then some inner else none
  plain.map fun found => String.ofList (found.map Char.toLower)

end Montage.Api
