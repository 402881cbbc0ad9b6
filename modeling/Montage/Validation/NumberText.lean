/-
  Montage.Validation.NumberText

  Numbers that are given as texts.  There is one plain spelling of an integer and one of
  a double; a text in another spelling is first brought into the plain one: blanks
  around it, a plus sign, zeros in front, a fraction of zeros and single underscores are
  taken away.
-/
import Montage.Number.Numeral
import Montage.Text.Blank

namespace Montage.Validation

open Montage.Number Montage.Text

/-! ## Underscores -/

/-- Whether two underscores stand side by side. -/
def hasDoubleUnderscore : List Char → Bool
  | '_' :: '_' :: _ => true
  | _ :: rest => hasDoubleUnderscore rest
  | [] => false

/-- A text without its underscores, if it has some, and each stands alone between other
    characters. -/
def ungrouped? (text : List Char) : Option (List Char) :=
  if !text.contains '_' || text.head? = some '_' || text.getLast? = some '_' ||
      hasDoubleUnderscore text then
    none
  else some (text.filter (· != '_'))

/-! ## Integers -/

/-- The longest integer that is read from a text, in digits. -/
def maxIntegerText : Nat := 4300

/-- What a text is as an integer in the plain spelling. -/
inductive PlainInteger where
  | value (i : Int)
  | tooLong
  | malformed
  deriving DecidableEq, Repr

/-- The plain spelling: an optional minus sign, and digits of which the first is a zero
    only if it is the only one.  Too many digits are noticed before anything that comes
    after them. -/
def plainInteger (text : List Char) : PlainInteger :=
  let (negative, unsigned) :=
    match text with
    | '-' :: rest => (true, rest)
    | _ => (false, text)
  let run := unsigned.takeWhile fun c => (Numeral.asciiDigit? c).isSome
  let digits := if run.head? = some '0' then run.take 1 else run
  if maxIntegerText < digits.length then .tooLong
  else if digits.isEmpty || digits.length < unsigned.length then .malformed
  else
    let magnitude : Int := Numeral.ofDigits (digits.filterMap Numeral.asciiDigit?)
    .value (if negative then -magnitude else magnitude)

/-- The rest of a numeral after zeros and underscores that followed a zero; `last` is the
    latest of them.  The digits or the sign that come next start the numeral anew, and of
    the zeros before a point one is kept. -/
def afterZeros (last : Char) : List Char → Option (List Char)
  | [] => some [last]
  | c :: rest =>
    if c = '0' ∨ c = '_' then afterZeros c rest
    else if c = '-' ∨ (Numeral.asciiDigit? c).isSome then some (c :: rest)
    else if c = '.' then some (last :: c :: rest)
    else none

/-- A numeral without the zeros in front of it, if a numeral can start like this. -/
def withoutLeadingZeros? : List Char → Option (List Char)
  | [] => none
  | c :: rest =>
    if c = '0' then afterZeros c rest
    else if c = '-' ∨ (Numeral.asciiDigit? c).isSome then some (c :: rest)
    else none

/-- A numeral without a fraction that consists of zeros. -/
def withoutZeroFraction (text : List Char) : List Char :=
  let whole := text.takeWhile (· != '.')
  let zeros := text.drop (whole.length + 1)
  if !zeros.isEmpty && zeros.all (· == '0') then whole else text

/-- A text without a plus sign in front, which no minus sign may follow. -/
def withoutPlus? : List Char → Option (List Char)
  | '+' :: '-' :: _ => none
  | '+' :: rest => some rest
  | text => some text

/-- A text brought into the plain spelling of an integer, if there was something to be
    taken away. -/
def cleanedInteger? (text : List Char) : Option (List Char) := do
  let unsigned ← withoutPlus? (trimBy isWhiteSpace text)
  let cleaned := withoutZeroFraction (← withoutLeadingZeros? unsigned)
  (ungrouped? cleaned).or (if cleaned.length = text.length then none else some cleaned)

/-- What a text is as an integer; a text that is too long only after it was cleaned is
    malformed. -/
def integerText (text : List Char) : PlainInteger :=
  match plainInteger text with
  | .value i => .value i
  | .tooLong => .tooLong
  | .malformed =>
    match (cleanedInteger? text).map plainInteger with
    | some (.value i) => .value i
    | _ => .malformed

/-! ## Doubles -/

/-- The plain spelling of a double, which has no underscores. -/
def plainReal? (text : List Char) : Option Binary64 :=
  if text.contains '_' then none else Numeral.double? Numeral.asciiDigit? text

/-- The double that a text stands for.  Blanks around it are accepted, or underscores
    inside it, but not both. -/
def realText? (text : List Char) : Option Binary64 :=
  (plainReal? (trimBy isWhiteSpace text)).or ((ungrouped? text).bind plainReal?)

end Montage.Validation
