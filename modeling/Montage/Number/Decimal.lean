/-
  Montage.Number.Decimal

  Doubles as decimal text: the fewest digits that read back to the same double, a
  fixed number of decimal places, and a fixed number of significant digits.  All
  three work on exact integers.  Where a number is written positionally and how an
  exponent looks is a `Layout`, one value per output format.
-/
import Montage.Number.Binary64

namespace Montage.Number.Decimal

/-! ## Digits and exponent -/

/-- A positive decimal: `significand * 10 ^ exponent`. -/
structure Scaled where
  significand : Nat
  exponent : Int
  deriving DecidableEq, Repr

/-- The decimal exponent of the first digit: `12.5` has 1, `0.02` has -2. -/
def Scaled.leading (d : Scaled) : Int :=
  decimalLength d.significand + d.exponent - 1

/-- Trailing zeros of the significand moved into the exponent. -/
def Scaled.trimZeros (d : Scaled) : Scaled :=
  let digits := d.significand.repr.toList
  let zeros := (digits.reverse.takeWhile (· == '0')).length
  if d.significand = 0 then d
  else ⟨d.significand / Nat.pow 10 zeros, d.exponent + zeros⟩

/-- The number of decimal digits before the point of a positive magnitude in units;
    zero or less for magnitudes below one tenth. -/
def digitsBeforePoint (units : Nat) : Int :=
  (decimalLength (units * Nat.pow 10 400 / Binary64.unitsPerOne) : Int) - 400

/-! ## Shortest digits -/

/-- The reals that round to a double, in quarters of a unit, with the ends included
    exactly when `closed`. -/
structure Basin where
  low : Nat
  high : Nat
  closed : Bool

/-- The basin of a positive finite double.  Just above a power of two the grid below
    is twice as fine. -/
def basin (units : Nat) : Basin :=
  let shift := excessBits Binary64.precision units
  let spacing := Nat.pow 2 shift
  let significand := units / spacing
  let below :=
    if significand = Nat.pow 2 (Binary64.precision - 1) ∧ 0 < shift then spacing else 2 * spacing
  { low := 4 * units - below, high := 4 * units + 2 * spacing, closed := significand % 2 = 0 }

/-- The decimal of `count` digits that lies in the basin and is nearest to the value,
    if one does; of two equally near ones the even one. -/
def shortestOfLength? (units : Nat) (count : Nat) : Option Scaled :=
  let places : Int := count - digitsBeforePoint units
  let up := Nat.pow 10 places.toNat
  let step := 4 * Binary64.unitsPerOne * Nat.pow 10 (-places).toNat
  let value := 4 * units * up
  let around := basin units
  let inside (candidate : Nat) : Bool :=
    if around.closed then
      around.low * up ≤ candidate * step && candidate * step ≤ around.high * up
    else
      around.low * up < candidate * step && candidate * step < around.high * up
  let floor := value / step
  let nearest := roundDiv value step
  let other := if nearest = floor then floor + 1 else floor
  if inside nearest then some ⟨nearest, -places⟩
  else if inside other then some ⟨other, -places⟩
  else none

/-- The fewest digits that read back to the same positive finite double; seventeen
    always do. -/
def shortest (units : Nat) : Scaled :=
  match (List.range 17).findSome? fun i => shortestOfLength? units (i + 1) with
  | some found => found.trimZeros
  | none => ⟨units, 0⟩

/-! ## Layout -/

/-- How a positive decimal is laid out. -/
structure Layout where
  /-- The least decimal exponent that is still written positionally. -/
  positionalFrom : Int
  /-- The first decimal exponent that is no longer written positionally. -/
  positionalBelow : Int
  /-- The least number of digits of an exponent. -/
  exponentDigits : Nat
  /-- Whether a whole number keeps a point and a zero when written positionally. -/
  keepsPoint : Bool

/-- Digits with leading zeros up to a width. -/
def padLeft (width : Nat) (digits : String) : String :=
  String.ofList (List.replicate (width - digits.length) '0') ++ digits

/-- A decimal written out with a point where one is needed. -/
def positional (keepsPoint : Bool) (d : Scaled) : String :=
  let digits := d.significand.repr
  if 0 ≤ d.exponent then
    let whole := digits ++ String.ofList (List.replicate d.exponent.toNat '0')
    if keepsPoint then whole ++ ".0" else whole
  else
    let places := (-d.exponent).toNat
    let padded := (padLeft (places + 1) digits).toList
    let split := padded.length - places
    String.ofList (padded.take split) ++ "." ++ String.ofList (padded.drop split)

/-- A decimal written with one digit before the point and an exponent with a sign. -/
def scientific (exponentDigits : Nat) (d : Scaled) : String :=
  let digits := d.significand.repr.toList
  let lead := String.ofList (digits.take 1)
  let tail := String.ofList (digits.drop 1)
  let power := d.leading
  let sign := if power < 0 then "-" else "+"
  lead ++ (if tail.isEmpty then "" else "." ++ tail) ++ "e" ++ sign ++
    padLeft exponentDigits power.natAbs.repr

/-- A positive decimal in a layout. -/
def Layout.render (layout : Layout) (d : Scaled) : String :=
  if layout.positionalFrom ≤ d.leading ∧ d.leading < layout.positionalBelow then
    positional layout.keepsPoint d
  else scientific layout.exponentDigits d

/-- The sign in front of a number. -/
def signText (negative : Bool) : String :=
  if negative then "-" else ""

/-- A finite double with its shortest digits. -/
def Layout.finite (layout : Layout) (negative : Bool) (units : Nat) : String :=
  signText negative ++
    (if units = 0 then positional layout.keepsPoint ⟨0, 0⟩ else layout.render (shortest units))

/-! ## Fixed places -/

/-- A finite magnitude, in units, as a whole number of `10 ^ (-places)`. -/
def fixedCount (places units : Nat) : Nat :=
  roundDiv (units * Nat.pow 10 places) Binary64.unitsPerOne

/-- A number of `10 ^ (-places)` written with exactly that many decimal places. -/
def fixedText (places count : Nat) : String :=
  let padded := (padLeft (places + 1) count.repr).toList
  let split := padded.length - places
  String.ofList (padded.take split) ++
    (if places = 0 then "" else "." ++ String.ofList (padded.drop split))

/-- A double with exactly `places` decimal places; a half goes to the even digit, and a
    negative number keeps its sign when it rounds to zero. -/
def fixed (places : Nat) : Binary64 → String
  | .nan => "nan"
  | .infinite negative => signText negative ++ "inf"
  | .finite negative units => signText negative ++ fixedText places (fixedCount places units)

/-! ## Significant digits -/

/-- A positive finite double rounded to `count` significant digits. -/
def roundToDigits (count units : Nat) : Scaled :=
  let places : Int := count - digitsBeforePoint units
  let up := Nat.pow 10 places.toNat
  let step := Binary64.unitsPerOne * Nat.pow 10 (-places).toNat
  ⟨roundDiv (units * up) step, -places⟩

/-- A double with up to `count` significant digits and no trailing zeros: positional
    for exponents from -4 up to `count`, else with an exponent of at least two
    digits. -/
def general (count : Nat) : Binary64 → String
  | .nan => "nan"
  | .infinite negative => signText negative ++ "inf"
  | .finite negative units =>
    let layout : Layout :=
      { positionalFrom := -4, positionalBelow := count, exponentDigits := 2, keepsPoint := false }
    signText negative ++
      (if units = 0 then "0" else layout.render (roundToDigits count units).trimZeros)

/-- As `general`, with a sign in front of every number. -/
def generalSigned (count : Nat) (x : Binary64) : String :=
  (if x.isNegative then "" else "+") ++ general count x

end Montage.Number.Decimal
