/-
  Montage.HostName.Punycode

  Texts in letters, digits and hyphens.  The ASCII characters come first; behind a hyphen
  follow the others in the order of their codes, each as a number that says how far it
  lies from the one before, counted over all places of all codes.
-/
import Montage.Text.Surrogate

namespace Montage.HostName.Punycode

open Montage.Text

/-! ## Numbers -/

/-- The code from which on characters are written as numbers. -/
def firstCode : Nat := 0x80

def firstBias : Nat := 72

/-- The least digit at a place that says that more digits follow. -/
def threshold (place bias : Nat) : Nat :=
  max 1 (min 26 (36 * (place + 1) - bias))

theorem threshold_pos (place bias : Nat) : 1 ≤ threshold place bias :=
  Nat.le_max_left _ _

theorem threshold_le (place bias : Nat) : threshold place bias ≤ 26 :=
  Nat.max_le.mpr ⟨by decide, Nat.min_le_left _ _⟩

/-- Divides until a number is small, and counts the steps in 36s. -/
def scale (delta : Nat) : Nat × Nat :=
  if 455 < delta then
    let (rest, steps) := scale (delta / 35)
    (rest, steps + 36)
  else (delta, 0)
termination_by delta
decreasing_by exact Nat.div_lt_self (by omega) (by decide)

/-- The bias for the next number after a number, with so many characters in place. -/
def adapt (delta : Nat) (isFirst : Bool) (count : Nat) : Nat :=
  let delta := if isFirst then delta / 700 else delta / 2
  let (rest, steps) := scale (delta + delta / count)
  steps + 36 * rest / (rest + 38)

/-- The letter or digit for a value below 36. -/
def digitChar (value : Nat) : Char :=
  if value < 26 then Char.ofNat (0x61 + value) else Char.ofNat (0x30 + (value - 26))

/-- The value of a letter or digit. -/
def digitValue? (c : Char) : Option Nat :=
  let code := c.toNat
  if 0x61 ≤ code ∧ code ≤ 0x7a then some (code - 0x61)
  else if 0x41 ≤ code ∧ code ≤ 0x5a then some (code - 0x41)
  else if 0x30 ≤ code ∧ code ≤ 0x39 then some (code - 0x30 + 26)
  else none

/-! ## Writing -/

/-- The digits of a number. -/
def digits (bias place number : Nat) : List Char :=
  let limit := threshold place bias
  if number < limit then [digitChar number]
  else
    digitChar (limit + (number - limit) % (36 - limit)) ::
      digits bias (place + 1) ((number - limit) / (36 - limit))
termination_by number
decreasing_by
  have hpos := threshold_pos place bias
  have hle := threshold_le place bias
  calc (number - threshold place bias) / (36 - threshold place bias)
      ≤ number - threshold place bias := Nat.div_le_self _ _
    _ < number := by omega

/-- Where writing stands: the digits so far, the distance since the last character that
    was written, and how many characters are in place. -/
structure Writing where
  output : List Char
  delta : Nat
  bias : Nat
  count : Nat

/-- Passes one character of the text while all characters with a code are written. -/
def pass (plain code : Nat) (writing : Writing) (c : Char) : Writing :=
  if c.toNat < code then { writing with delta := writing.delta + 1 }
  else if c.toNat = code then
    { output := writing.output ++ digits writing.bias 0 writing.delta
      delta := 0
      bias := adapt writing.delta (writing.count = plain) (writing.count + 1)
      count := writing.count + 1 }
  else writing

/-- Writes the characters of these codes, which rise from `code`. -/
def writeCodes (text : List Char) (plain code : Nat) (writing : Writing) : List Nat → Writing
  | [] => writing
  | next :: rest =>
    let moved := { writing with delta := writing.delta + (next - code) * (writing.count + 1) }
    let passed := text.foldl (pass plain next) moved
    writeCodes text plain (next + 1) { passed with delta := passed.delta + 1 } rest

/-- A text in letters, digits and hyphens. -/
def encode (text : List Char) : List Char :=
  let plain := text.filter fun c => c.toNat < firstCode
  let codes := ((text.map Char.toNat).filter (firstCode ≤ ·)).mergeSort.eraseDups
  let writing := writeCodes text plain.length firstCode ⟨[], 0, firstBias, plain.length⟩ codes
  (if plain.isEmpty then [] else plain ++ ['-']) ++ writing.output

/-! ## Reading -/

/-- A number at the start of a text, and what follows it. -/
def readNumber (bias place weight : Nat) : List Char → Option (Nat × List Char)
  | [] => none
  | c :: rest =>
    match digitValue? c with
    | none => none
    | some value =>
      let limit := threshold place bias
      if value < limit then some (value * weight, rest)
      else
        (readNumber bias (place + 1) (weight * (36 - limit)) rest).map fun (number, rest) =>
          (value * weight + number, rest)

/-- The largest code there is. -/
def maxCode : Nat := 0x10ffff

/-- Puts the characters of the numbers in a text in their places; the fuel is the length
    of the text. -/
def readCodes (code place bias : Nat) (isFirst : Bool) (done : List Char) :
    Nat → List Char → Option (List Char)
  | _, [] => some done
  | 0, _ => some done
  | fuel + 1, text =>
    match readNumber bias 0 1 text with
    | none => none
    | some (delta, rest) =>
      let place := place + delta
      let code := code + place / (done.length + 1)
      let place := place % (done.length + 1)
      if maxCode < code then none
      else
        let done := done.take place ++ Surrogate.keep code :: done.drop place
        readCodes code (place + 1) (adapt delta isFirst done.length) false done fuel rest

/-- The text that letters, digits and hyphens stand for. -/
def decode (text : List Char) : Option (List Char) :=
  let extended := (text.reverse.takeWhile (· != '-')).reverse
  let plain := (text.take (text.length - extended.length)).dropLast
  readCodes firstCode 0 firstBias true plain extended.length extended

end Montage.HostName.Punycode
