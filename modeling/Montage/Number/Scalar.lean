/-
  Montage.Number.Scalar

  Numbers as documents and scripts hold them: unbounded integers and doubles side by
  side.  Arithmetic on two integers is exact; as soon as a double takes part the
  other side is converted, which fails for integers too large for a double.
-/
import Montage.Number.Decimal

namespace Montage.Number

/-- An unbounded integer or a double. -/
inductive Scalar where
  | int (value : Int)
  | real (value : Binary64)
  deriving DecidableEq, Repr

/-- Why a computation on numbers has no result. -/
inductive ArithmeticError where
  /-- An integer has no nearby double. -/
  | integerTooLarge
  /-- The quotient of two integers has no nearby double. -/
  | quotientTooLarge
  /-- An infinity was to be rounded to an integer. -/
  | infinityToInteger
  /-- A NaN was to be rounded to an integer. -/
  | nanToInteger
  deriving DecidableEq, Repr

def ArithmeticError.message : ArithmeticError → String
  | .integerTooLarge => "int too large to convert to float"
  | .quotientTooLarge => "integer division result too large for a float"
  | .infinityToInteger => "cannot convert float infinity to integer"
  | .nanToInteger => "cannot convert float NaN to integer"

namespace Binary64

/-- The double nearest to an integer, if it is in range. -/
def ofInt? (i : Int) : Except ArithmeticError Binary64 :=
  match ofInt i with
  | .infinite _ => .error .integerTooLarge
  | x => .ok x

/-- The double nearest to the quotient of two integers; the divisor is not zero. -/
def ofRatio? (num den : Int) : Except ArithmeticError Binary64 :=
  match ofQuotient ((num < 0) != (den < 0)) (num.natAbs * unitsPerOne) den.natAbs with
  | .infinite _ => .error .quotientTooLarge
  | .finite negative units => .ok (.finite (negative && num != 0) units)
  | x => .ok x

/-- Why a double that is not finite is no integer. -/
def noInteger (x : Binary64) : ArithmeticError :=
  if x.isNaN then .nanToInteger else .infinityToInteger

/-- The whole part of a double, towards zero. -/
def toWholeInt (x : Binary64) : Except ArithmeticError Int :=
  match x with
  | .finite negative units => .ok (signed negative (units / unitsPerOne))
  | x => .error x.noInteger

/-- The integer nearest to a double, a half going to the even one. -/
def toNearestInt (x : Binary64) : Except ArithmeticError Int :=
  match x.round? with
  | some i => .ok i
  | none => .error x.noInteger

end Binary64

namespace Scalar

instance : Inhabited Scalar := ⟨.int 0⟩

def toReal : Scalar → Except ArithmeticError Binary64
  | .int i => Binary64.ofInt? i
  | .real x => .ok x

/-- The double that a number converts to, an integer out of range becoming an
    infinity. -/
def toRealOrInfinite : Scalar → Binary64
  | .int i => .ofInt i
  | .real x => x

/-- The order between an integer and a double is exact: nothing is rounded first. -/
def ltInt : Scalar → Int → Bool
  | .int i, j => i < j
  | .real (.finite negative units), j =>
    (if negative then -(units : Int) else units) < j * Binary64.unitsPerOne
  | .real (.infinite negative), _ => negative
  | .real .nan, _ => false

def leInt : Scalar → Int → Bool
  | .int i, j => i ≤ j
  | .real (.finite negative units), j =>
    (if negative then -(units : Int) else units) ≤ j * Binary64.unitsPerOne
  | .real (.infinite negative), _ => negative
  | .real .nan, _ => false

/-- Whether the first number is less than the second, decided exactly. -/
def lt : Scalar → Scalar → Bool
  | x, .int j => x.ltInt j
  | .int i, .real (.finite negative units) =>
    i * Binary64.unitsPerOne < (if negative then -(units : Int) else units)
  | .int _, .real (.infinite negative) => !negative
  | .int _, .real .nan => false
  | .real x, .real y => Binary64.lt x y

/-- The product of two numbers, exact for two integers. -/
def mul : Scalar → Scalar → Except ArithmeticError Scalar
  | .int i, .int j => .ok (.int (i * j))
  | x, y => do return .real (Binary64.mul (← x.toReal) (← y.toReal))

/-- The sum of two numbers, exact for two integers. -/
def add : Scalar → Scalar → Except ArithmeticError Scalar
  | .int i, .int j => .ok (.int (i + j))
  | x, y => do return .real (Binary64.add (← x.toReal) (← y.toReal))

/-- The correctly rounded quotient of two numbers; the divisor is not zero. -/
def div : Scalar → Scalar → Except ArithmeticError Binary64
  | .int i, .int j => Binary64.ofRatio? i j
  | x, y => do return Binary64.div (← x.toReal) (← y.toReal)

end Scalar

end Montage.Number
