/-
  Montage.Number.Numeral

  Numerals as people and configuration files write them: an optional sign, decimal
  digits that single underscores may group, a point, an exponent, or one of the
  words for infinity and not-a-number.  Which characters count as digits is a
  parameter, since some readers take the decimal digits of every script.
-/
import Montage.Number.Binary64

namespace Montage.Number.Numeral

/-! ## Digits -/

/-- The value of an ASCII decimal digit. -/
def asciiDigit? (c : Char) : Option Nat :=
  if '0' ≤ c ∧ c ≤ '9' then some (c.toNat - 48) else none

/-- The number that a list of decimal digits stands for, most significant first. -/
def ofDigits (digits : List Nat) : Nat :=
  digits.foldl (fun total digit => 10 * total + digit) 0

/-- The rest of a run of digits, just after one of them: one underscore may stand
    between two digits. -/
def digitRunTail (digit? : Char → Option Nat) : List Char → List Nat × List Char
  | [] => ([], [])
  | c :: rest =>
    match digit? c with
    | some digit =>
      let (digits, left) := digitRunTail digit? rest
      (digit :: digits, left)
    | none =>
      match rest with
      | [] => ([], [c])
      | next :: after =>
        match digit? next with
        | some digit =>
          if c = '_' then
            let (digits, left) := digitRunTail digit? after
            (digit :: digits, left)
          else ([], c :: next :: after)
        | none => ([], c :: next :: after)

/-- The longest leading run of digits and what follows it. -/
def digitRun (digit? : Char → Option Nat) (text : List Char) : List Nat × List Char :=
  match text with
  | [] => ([], [])
  | c :: rest =>
    match digit? c with
    | none => ([], text)
    | some digit =>
      let (digits, left) := digitRunTail digit? rest
      (digit :: digits, left)

/-- An optional sign and what follows it. -/
def takeSign : List Char → Bool × List Char
  | '-' :: rest => (true, rest)
  | '+' :: rest => (false, rest)
  | text => (false, text)

/-! ## Integers -/

/-- The longest integer that is read, in digits. -/
def maxIntegerDigits : Nat := 4300

/-- An integer: an optional sign and digits. -/
def integer? (digit? : Char → Option Nat) (text : List Char) : Option Int :=
  let (negative, unsigned) := takeSign text
  match digitRun digit? unsigned with
  | ([], _) => none
  | (digits, []) =>
    let magnitude : Int := ofDigits digits
    if maxIntegerDigits < digits.length then none
    else some (if negative then -magnitude else magnitude)
  | _ => none

/-! ## Doubles -/

/-- The power of ten after an `e`, or zero where the numeral ends before one. -/
def exponent? (digit? : Char → Option Nat) : List Char → Option Int
  | [] => some 0
  | c :: rest =>
    if c = 'e' ∨ c = 'E' then
      let (negative, unsigned) := takeSign rest
      match digitRun digit? unsigned with
      | ([], _) => none
      | (digits, []) =>
        let magnitude : Int := ofDigits digits
        some (if negative then -magnitude else magnitude)
      | _ => none
    else none

/-- The words that stand for an infinity or for no number, in any letter case. -/
def word? (negative : Bool) (text : List Char) : Option Binary64 :=
  let lower := text.map Char.toLower
  if lower = "inf".toList ∨ lower = "infinity".toList then some (.infinite negative)
  else if lower = "nan".toList then some .nan
  else none

/-- A double: digits before a point, after it, or both, then an optional exponent; or
    one of the words. -/
def double? (digit? : Char → Option Nat) (text : List Char) : Option Binary64 :=
  let (negative, unsigned) := takeSign text
  let (whole, rest) := digitRun digit? unsigned
  let (fraction, tail) :=
    match rest with
    | '.' :: after => digitRun digit? after
    | _ => ([], rest)
  if whole.isEmpty && fraction.isEmpty then word? negative unsigned
  else
    (exponent? digit? tail).map fun power =>
      Binary64.ofDecimal negative (ofDigits (whole ++ fraction)) (power - fraction.length)

end Montage.Number.Numeral
