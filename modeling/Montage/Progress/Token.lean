/-
  Montage.Progress.Token

  The time stamps in the engine's status lines, such as `time=00:01:02.50`: any number
  of digits for the hours, two for the minutes, two for the seconds, and an optional
  fraction.  Digits of every script are read.
-/
import Montage.Fault
import Montage.Number.Numeral
import Montage.Text.Digit

namespace Montage.Progress

open Montage.Number Montage.Text

/-- A time stamp; all fields are digits, most significant first. -/
structure Token where
  hours : List Nat
  minutes : List Nat
  seconds : List Nat
  fraction : List Nat
  deriving DecidableEq, Repr

/-! ## Recognition -/

/-- The leading digits of a text and what follows them. -/
def takeDigits : List Char → List Nat × List Char
  | [] => ([], [])
  | c :: rest =>
    match digitValue? c with
    | none => ([], c :: rest)
    | some digit =>
      let (digits, left) := takeDigits rest
      (digit :: digits, left)

/-- Exactly two digits at the start of a text. -/
def takePair : List Char → Option (List Nat × List Char)
  | first :: second :: rest =>
    match digitValue? first, digitValue? second with
    | some a, some b => some ([a, b], rest)
    | _, _ => none
  | _ => none

/-- The digits of a fraction, if a point and a digit come first. -/
def takeFraction : List Char → List Nat
  | '.' :: rest => (takeDigits rest).1
  | _ => []

/-- The token after the equals sign. -/
def tokenAfter? (text : List Char) : Option Token :=
  match takeDigits text with
  | ([], _) => none
  | (hours, ':' :: rest) =>
    match takePair rest with
    | some (minutes, ':' :: rest) =>
      match takePair rest with
      | some (seconds, rest) => some ⟨hours, minutes, seconds, takeFraction rest⟩
      | none => none
    | _ => none
  | _ => none

/-- The token that starts at the beginning of a text. -/
def tokenAt? : List Char → Option Token
  | 't' :: 'i' :: 'm' :: 'e' :: '=' :: rest => tokenAfter? rest
  | _ => none

/-- The last token of a text.  No token can start inside another one. -/
def lastToken? : List Char → Option Token
  | [] => none
  | c :: rest =>
    match lastToken? rest with
    | some token => some token
    | none => tokenAt? (c :: rest)

/-! ## Elapsed time -/

/-- The most digits an hour may have. -/
def maxHourDigits : Nat := 4300

/-- The hours of a token. -/
def Token.hourCount (token : Token) : Except Fault Int :=
  if maxHourDigits < token.hours.length then
    .error (.malformed
      ("Exceeds the limit (" ++ maxHourDigits.repr ++ " digits) for integer string conversion: " ++
        "value has " ++ token.hours.length.repr ++
        " digits; use sys.set_int_max_str_digits() to increase the limit"))
  else .ok (Numeral.ofDigits token.hours)

/-- The seconds of a token with their fraction. -/
def Token.secondCount (token : Token) : Binary64 :=
  .ofDecimal false (Numeral.ofDigits (token.seconds ++ token.fraction)) (-token.fraction.length)

/-- The time of a token in seconds. -/
def Token.elapsed (token : Token) : Except Fault Binary64 := do
  let whole := (← token.hourCount) * 3600 + Numeral.ofDigits token.minutes * 60
  let start ← (Binary64.ofInt? whole).mapError .arithmetic
  return start.add token.secondCount

/-- The time of the last token of a text, if it has one. -/
def elapsed? (text : List Char) : Except Fault (Option Binary64) :=
  match lastToken? text with
  | none => .ok none
  | some token => token.elapsed.map some

end Montage.Progress
