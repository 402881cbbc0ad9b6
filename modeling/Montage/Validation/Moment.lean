/-
  Montage.Validation.Moment

  Points in time: a date in digits, perhaps with a time of day, or a number of seconds
  or of milliseconds.
-/
import Montage.Json.Basic
import Montage.Number.Numeral

namespace Montage.Validation

open Montage.Number

/-! ## Dates and times in digits -/

/-- A number of so many digits at the start of a text, and what follows it. -/
def takeDigits (count : Nat) (text : List Char) : Option (Nat × List Char) :=
  let digits := (text.take count).filterMap Numeral.asciiDigit?
  if digits.length = count then some (Numeral.ofDigits digits, text.drop count) else none

/-- A text after a given character. -/
def skipMark (mark : Char) : List Char → Option (List Char)
  | c :: rest => if c = mark then some rest else none
  | [] => none

def isLeapYear (year : Nat) : Bool :=
  year % 4 == 0 && (year % 100 != 0 || year % 400 == 0)

/-- The days of a month. -/
def daysInMonth (year month : Nat) : Nat :=
  if month = 2 then (if isLeapYear year then 29 else 28)
  else if [4, 6, 9, 11].contains month then 30
  else 31

/-- What follows a date at the start of a text. -/
def afterDate? (text : List Char) : Option (List Char) := do
  let (year, rest) ← takeDigits 4 text
  let (month, rest) ← takeDigits 2 (← skipMark '-' rest)
  let (day, rest) ← takeDigits 2 (← skipMark '-' rest)
  if 1 ≤ year ∧ 1 ≤ month ∧ month ≤ 12 ∧ 1 ≤ day ∧ day ≤ daysInMonth year month then some rest
  else none

/-- What follows seconds with or without a fraction, if there are any. -/
def afterSeconds? (text : List Char) : Option (List Char) :=
  match text with
  | ':' :: rest => do
    let (second, rest) ← takeDigits 2 rest
    if 59 < second then none
    else
      match rest with
      | mark :: after =>
        if mark = '.' ∨ mark = ',' then
          let digits := after.takeWhile fun c => (Numeral.asciiDigit? c).isSome
          if digits.isEmpty then none else some (after.drop digits.length)
        else some rest
      | [] => some []
  | _ => some text

/-- Whether a text is empty or names an offset from universal time. -/
def isOffset (text : List Char) : Bool :=
  match text with
  | [] => true
  | ['Z'] => true
  | ['z'] => true
  | sign :: rest =>
    let offset : Option Bool := do
      let (hour, rest) ← takeDigits 2 rest
      let (minute, rest) ← takeDigits 2 ((skipMark ':' rest).getD rest)
      return hour < 24 && minute < 60 && rest.isEmpty
    (sign == '+' || sign == '-') && offset.getD false

/-- Whether a text is a time of day. -/
def isTime (text : List Char) : Bool :=
  let time : Option Bool := do
    let (hour, rest) ← takeDigits 2 text
    let (minute, rest) ← takeDigits 2 (← skipMark ':' rest)
    let rest ← afterSeconds? rest
    return hour < 24 && minute < 60 && isOffset rest
  time.getD false

/-! ## Numbers -/

/-- From this magnitude on a number counts milliseconds. -/
def largestSeconds : Nat := 20000000000

/-- Whether a number of seconds or milliseconds lies between the years 1600 and 9999. -/
def isTimestamp (number : Int) : Bool :=
  let seconds := if largestSeconds < number.natAbs then number / 1000 else number
  seconds ≤ 253402300799 && -11676096000 ≤ seconds

def isRealTimestamp (x : Binary64) : Bool :=
  (x.round?.map isTimestamp).getD false

/-! ## Values -/

def isMomentText (text : List Char) : Bool :=
  match afterDate? text with
  | some [] => true
  | some (separator :: time) => ['T', 't', ' ', '_'].contains separator && isTime time
  | none => ((Numeral.double? Numeral.asciiDigit? text).map isRealTimestamp).getD false

/-- Whether a value stands for a point in time. -/
def isMoment : Json → Bool
  | .num (.int i) => isTimestamp i
  | .num (.real x) => isRealTimestamp x
  | .str text => isMomentText text.toList
  | _ => false

end Montage.Validation
