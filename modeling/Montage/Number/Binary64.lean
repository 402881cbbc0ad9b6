/-
  Montage.Number.Binary64

  Double-precision numbers, with exact integers in place of bit fields.  Every
  finite double is a whole number of units of `2 ^ (-1074)`, so a double is a sign
  and a count of units, an operation is the exact operation on counts followed by
  one rounding, and the order is the order of the integers.
-/
import Montage.Number.Rounding

namespace Montage.Number

/-- A double-precision number.  `finite negative units` is `±units / 2 ^ 1074`. -/
inductive Binary64 where
  | finite (negative : Bool) (units : Nat)
  | infinite (negative : Bool)
  | nan
  deriving DecidableEq, Repr

namespace Binary64

/-! ## The grid -/

/-- Binary digits of a significand. -/
def precision : Nat := 53

/-- Units in the number one. -/
def unitsPerOne : Nat := Nat.pow 2 1074

/-- The first magnitude, in units, that is written as an infinity. -/
def overflowUnits : Nat := Nat.pow 2 2098

/-- A rounded magnitude with its sign, or an infinity where it is too large. -/
def ofUnits (negative : Bool) (units : Nat) : Binary64 :=
  if units < overflowUnits then .finite negative units else .infinite negative

/-- The double nearest to `± num / den` units. -/
def ofQuotient (negative : Bool) (num den : Nat) : Binary64 :=
  ofUnits negative (roundToPrecision precision num den)

/-- Whether a finite number lies on the grid of doubles. -/
def OnGrid (units : Nat) : Prop :=
  roundToPrecision precision units 1 = units ∧ units < overflowUnits

def zero : Binary64 := .finite false 0

instance : Inhabited Binary64 := ⟨zero⟩

/-! ## Views -/

/-- The exact value of a finite number in units. -/
def signed (negative : Bool) (units : Nat) : Int :=
  if negative then -(units : Int) else units

def isFinite : Binary64 → Bool
  | .finite _ _ => true
  | _ => false

def isNaN : Binary64 → Bool
  | .nan => true
  | _ => false

def isNegative : Binary64 → Bool
  | .finite negative _ => negative
  | .infinite negative => negative
  | .nan => false

/-! ## Conversions from exact numbers -/

def ofNat (n : Nat) : Binary64 :=
  ofQuotient false (n * unitsPerOne) 1

/-- The double nearest to an integer; an integer too large for a double becomes an
    infinity. -/
def ofInt (i : Int) : Binary64 :=
  ofQuotient (i < 0) (i.natAbs * unitsPerOne) 1

/-- The double nearest to `± digits * 10 ^ exponent`.  Exponents that are far outside
    the range of doubles are decided by the number of digits alone. -/
def ofDecimal (negative : Bool) (digits : Nat) (exponent : Int) : Binary64 :=
  if digits = 0 then .finite negative 0
  else if exponent + decimalLength digits > 400 then .infinite negative
  else if exponent + decimalLength digits < -400 then .finite negative 0
  else if 0 ≤ exponent then
    ofQuotient negative (digits * Nat.pow 10 exponent.toNat * unitsPerOne) 1
  else
    ofQuotient negative (digits * unitsPerOne) (Nat.pow 10 (-exponent).toNat)

/-! ## Order -/

/-- Numeric equality: the two zeros are equal and a NaN differs from itself. -/
def eq : Binary64 → Binary64 → Bool
  | .nan, _ => false
  | _, .nan => false
  | .infinite a, .infinite b => a = b
  | .infinite _, .finite _ _ => false
  | .finite _ _, .infinite _ => false
  | .finite a x, .finite b y => signed a x = signed b y

/-- Numeric order; false as soon as one side is a NaN. -/
def lt : Binary64 → Binary64 → Bool
  | .nan, _ => false
  | _, .nan => false
  | .infinite a, .infinite b => a && !b
  | .infinite a, .finite _ _ => a
  | .finite _ _, .infinite b => !b
  | .finite a x, .finite b y => signed a x < signed b y

def le (x y : Binary64) : Bool :=
  lt x y || eq x y

/-! ## Arithmetic -/

/-- The rounded sum.  Opposite numbers give a positive zero. -/
def add : Binary64 → Binary64 → Binary64
  | .nan, _ => .nan
  | _, .nan => .nan
  | .infinite a, .infinite b => if a = b then .infinite a else .nan
  | .infinite a, .finite _ _ => .infinite a
  | .finite _ _, .infinite b => .infinite b
  | .finite a x, .finite b y =>
    let total := signed a x + signed b y
    if total = 0 then .finite (a && b) 0
    else ofQuotient (total < 0) total.natAbs 1

/-- The rounded product. -/
def mul : Binary64 → Binary64 → Binary64
  | .nan, _ => .nan
  | _, .nan => .nan
  | .infinite a, .infinite b => .infinite (a != b)
  | .infinite a, .finite b y => if y = 0 then .nan else .infinite (a != b)
  | .finite a x, .infinite b => if x = 0 then .nan else .infinite (a != b)
  | .finite a x, .finite b y => ofQuotient (a != b) (x * y) unitsPerOne

/-- The rounded quotient. -/
def div : Binary64 → Binary64 → Binary64
  | .nan, _ => .nan
  | _, .nan => .nan
  | .infinite _, .infinite _ => .nan
  | .infinite a, .finite b _ => .infinite (a != b)
  | .finite a _, .infinite b => .finite (a != b) 0
  | .finite a x, .finite b y =>
    if y = 0 then (if x = 0 then .nan else .infinite (a != b))
    else ofQuotient (a != b) (x * unitsPerOne) y

/-! ## Integers nearby -/

/-- The integer nearest to a finite number, a half going to the even one. -/
def round? : Binary64 → Option Int
  | .finite negative units =>
    some (signed negative (roundDiv units unitsPerOne))
  | _ => none

/-- What is left of a finite number without its whole part, with the same sign. -/
def fraction : Binary64 → Binary64
  | .finite negative units => .finite negative (units % unitsPerOne)
  | x => x

/-- The integer that a finite number is, if it has no fractional part. -/
def toInt? : Binary64 → Option Int
  | .finite negative units =>
    if units % unitsPerOne = 0 then some (signed negative (units / unitsPerOne)) else none
  | _ => none

end Binary64

end Montage.Number
