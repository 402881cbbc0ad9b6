/-
  Montage.Text.Composed

  The composed form of a text (form C of Unicode 14): every character is taken apart,
  marks are put in order, and what makes a character together is put together again.
-/
import Montage.Text.Composition

namespace Montage.Text.Composition

/-! ## Syllables -/

/-- Hangul syllables are made of a leading letter, a vowel and perhaps a final one, and
    are numbered in that order. -/
def firstSyllable : Nat := 0xac00

def syllableCount : Nat := 11172

def firstLeading : Nat := 0x1100

def leadingCount : Nat := 19

def firstVowel : Nat := 0x1161

def vowelCount : Nat := 21

/-- One less than the first final letter, so that no final letter counts as zero. -/
def beforeFinals : Nat := 0x11a7

def finalCount : Nat := 28

def isSyllable (code : Nat) : Bool :=
  firstSyllable ≤ code && code < firstSyllable + syllableCount

/-- A syllable of two letters, or of a syllable without a final letter and one. -/
def syllable? (first second : Nat) : Option Nat :=
  if firstLeading ≤ first ∧ first < firstLeading + leadingCount ∧
      firstVowel ≤ second ∧ second < firstVowel + vowelCount then
    some (firstSyllable + ((first - firstLeading) * vowelCount + (second - firstVowel)) * finalCount)
  else if isSyllable first ∧ (first - firstSyllable) % finalCount = 0 ∧
      beforeFinals < second ∧ second < beforeFinals + finalCount then
    some (first + (second - beforeFinals))
  else none

/-- The letters of a syllable. -/
def letters (code : Nat) : List Nat :=
  let index := code - firstSyllable
  let final := index % finalCount
  [firstLeading + index / (vowelCount * finalCount),
   firstVowel + index % (vowelCount * finalCount) / finalCount] ++
    if final = 0 then [] else [beforeFinals + final]

/-! ## Pairs -/

/-- The character that two characters make. -/
def pair? (first second : Nat) : Option Nat :=
  (syllable? first second).or ((pairTable.lookup second).bind fun firsts => firsts.lookup first)

/-- The two characters that make a character. -/
def parts? (code : Nat) : Option (Nat × Nat) :=
  pairTable.findSome? fun (second, firsts) =>
    (firsts.find? fun (_, made) => made = code).map fun (first, _) => (first, second)

/-- How often a character can be taken apart at most. -/
def maxParts : Nat := 4

/-- A character taken apart. -/
def decomposed : Nat → Nat → List Nat
  | 0, code => [code]
  | fuel + 1, code =>
    if isSyllable code then letters code
    else
      match parts? code with
      | some (first, second) => decomposed fuel first ++ [second]
      | none => [code]

/-! ## Marks -/

/-- The class of a character.  Marks of different classes do not touch each other. -/
def markClass (code : Nat) : Nat :=
  (markClasses.findSome? fun (first, last, value) =>
    if first ≤ code && code ≤ last then some value else none).getD 0

/-- A mark put in front of marks in order, behind those of lower classes. -/
def insertMark (code : Nat) : List Nat → List Nat
  | [] => [code]
  | other :: rest =>
    if markClass other ≠ 0 ∧ markClass other < markClass code then other :: insertMark code rest
    else code :: other :: rest

/-- The marks between other characters in the order of their classes. -/
def inOrder : List Nat → List Nat
  | [] => []
  | code :: rest => if markClass code = 0 then code :: inOrder rest else insertMark code (inOrder rest)

/-! ## Composing -/

/-- A character takes up the marks behind it as far as they make another one with it.
    `passed` holds the marks that do not, the last one first; a mark cannot be taken up
    past one of its own class.  Gives the character with its marks, and the rest. -/
def takeUp (code : Nat) (passed : List Nat) : List Nat → List Nat × List Nat
  | [] => (code :: passed.reverse, [])
  | next :: rest =>
    let isBlocked : Bool := (passed.head?.map fun last => decide (markClass next ≤ markClass last)).getD false
    match if isBlocked then none else pair? code next with
    | some made => takeUp made passed rest
    | none =>
      if markClass next = 0 then (code :: passed.reverse, next :: rest)
      else takeUp code (next :: passed) rest

/-- Characters put together; the fuel is their number. -/
def compose : Nat → List Nat → List Nat
  | 0, codes => codes
  | _, [] => []
  | fuel + 1, code :: rest =>
    if markClass code = 0 then
      let (made, rest) := takeUp code [] rest
      made ++ compose fuel rest
    else code :: compose fuel rest

/-- Whether a text is in its composed form. -/
def isComposed (codes : List Nat) : Bool :=
  !codes.any (fun code => replacedRuns.any fun (first, last) => first ≤ code && code ≤ last) &&
    let apart := inOrder (codes.flatMap (decomposed maxParts))
    compose apart.length apart == codes

end Montage.Text.Composition
