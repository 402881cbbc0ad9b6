/-
  Montage.HostName.Label

  What a label of a host name may be: composed, without hyphens at its ends or where a
  prefix has them, of allowed characters beside each other, and with directions that go
  together.
-/
import Montage.HostName.Allowed
import Montage.HostName.Direction
import Montage.HostName.Fault
import Montage.HostName.Script
import Montage.Text.Composed
import Montage.Text.Mark

namespace Montage.HostName

open Montage.Text

/-! ## Characters beside others -/

/-- The class of the marks that take away the vowel of a letter. -/
def vowelKiller : Nat := 9

/-- Whether a joiner follows a mark that takes away a vowel; `before` is the text before
    it, the last character first. -/
def followsVowelKiller (before : List Nat) : Bool :=
  before.head?.map Composition.markClass == some vowelKiller

/-- How the next character joins, past those that joining passes over. -/
def nextJoining (codes : List Nat) : Joining :=
  ((codes.map joining).dropWhile (· = .transparent)).head?.getD .other

/-- Whether a joiner may stand between characters. -/
def joinerFits (code : Nat) (before after : List Nat) : Bool :=
  followsVowelKiller before ||
    code == 0x200c &&
      (nextJoining before == .left || nextJoining before == .both) &&
      (nextJoining after == .right || nextJoining after == .both)

/-- Arabic digits, and those of the languages to the east. -/
def isArabicDigit (code : Nat) : Bool := 0x660 ≤ code && code ≤ 0x669

def isEasternDigit (code : Nat) : Bool := 0x6f0 ≤ code && code ≤ 0x6f9

/-- Whether a character is allowed only beside certain others. -/
def needsContext (code : Nat) : Bool :=
  [0xb7, 0x375, 0x5f3, 0x5f4, 0x30fb].contains code || isArabicDigit code || isEasternDigit code

/-- Whether such a character may stand between characters: a middle dot between two
    letters l, the Greek numeral sign before Greek, Hebrew punctuation after Hebrew, a
    Japanese middle dot in a label with Japanese, and digits of one kind. -/
def contextFits (code : Nat) (before after : List Nat) : Bool :=
  if code = 0xb7 then before.head? == some 0x6c && after.head? == some 0x6c
  else if code = 0x375 then (after.head?.map (isWithin greekRuns)).getD false
  else if code = 0x5f3 ∨ code = 0x5f4 then (before.head?.map (isWithin hebrewRuns)).getD false
  else if code = 0x30fb then
    (before ++ after).any fun other => other ≠ 0x30fb && isWithin japaneseRuns other
  else if isArabicDigit code then !(before ++ after).any isEasternDigit
  else !(before ++ after).any isArabicDigit

/-- The first character of a label that may not stand where it stands; `before` is the
    text before the place, the last character first. -/
def characterFault? (label : List Char) (before : List Nat) : List Char → Option Fault
  | [] => none
  | c :: rest =>
    let code := codeOf c
    let position := before.length + 1
    let after := rest.map codeOf
    let fault : Option Fault :=
      if isAllowed code then none
      else if code = 0x200c ∨ code = 0x200d then
        if joinerFits code before after then none else some (.joiner c position label)
      else if needsContext code then
        if contextFits code before after then none else some (.context c position label)
      else some (.character c position label)
    fault.or (characterFault? label (code :: before) rest)

/-! ## Directions -/

def isRightward : Direction → Bool
  | .right | .arabic | .arabicNumber => true
  | _ => false

/-- Whether a direction may stand in a label that is written from right to left. -/
def fitsRightToLeft (direction : Direction) : Bool :=
  direction ≠ .left

/-- Whether a direction may stand in a label that is written from left to right. -/
def fitsLeftToRight (direction : Direction) : Bool :=
  !isRightward direction

/-- Whether a label may end after a direction, marks aside. -/
def endsWell (isRightToLeft : Bool) : Direction → Bool
  | .right | .arabic | .arabicNumber => isRightToLeft
  | .left => !isRightToLeft
  | .number => true
  | _ => false

/-- The first direction that does not fit, counted from a position; `numbers` is the kind
    of numbers seen so far. -/
def runFault? (isRightToLeft : Bool) (numbers : Option Direction) (position : Nat) :
    List Direction → Option DirectionFault
  | [] => none
  | next :: rest =>
    if isRightToLeft then
      if !fitsRightToLeft next then some (.inRightToLeft position)
      else if next = .number ∨ next = .arabicNumber then
        if numbers.getD next = next then runFault? isRightToLeft (some next) (position + 1) rest
        else some .mixedNumbers
      else runFault? isRightToLeft numbers (position + 1) rest
    else if !fitsLeftToRight next then some (.inLeftToRight position)
    else runFault? isRightToLeft numbers (position + 1) rest

/-- What is wrong with the directions of a label.  Nothing is, where no character is
    written from right to left. -/
def directionFault? (directions : List Direction) : Option DirectionFault :=
  match directions.findIdx? (· = .unknown) with
  | some place => some (.unknown (place + 1))
  | none =>
    if !directions.any isRightward then none
    else
      match directions with
      | .left :: _ => check false
      | .right :: _ => check true
      | .arabic :: _ => check true
      | _ => some .first
where
  check (isRightToLeft : Bool) : Option DirectionFault :=
    (runFault? isRightToLeft none 1 directions).or <|
      match (directions.reverse.dropWhile (· = .mark)).head? with
      | some last => if endsWell isRightToLeft last then none else some .ending
      | none => some .ending

/-! ## Labels -/

/-- What is wrong with a label. -/
def labelFault? (label : List Char) : Option Fault :=
  let codes := label.map codeOf
  match label with
  | [] => some .emptyLabel
  | first :: _ =>
    if !Composition.isComposed codes then some .notComposed
    else if (label.drop 2).take 2 = ['-', '-'] then some .prefixHyphens
    else if first = '-' ∨ label.getLast? = some '-' then some .outerHyphen
    else if isMark (codeOf first) then some .initialMark
    else
      (characterFault? label [] label).or <|
        (directionFault? (codes.map direction)).map fun fault => .direction fault label

end Montage.HostName
