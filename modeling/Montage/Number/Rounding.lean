/-
  Montage.Number.Rounding

  Rounding of exact quotients of natural numbers: to the nearest natural number,
  and to the nearest number with a bounded count of binary digits.  A half always
  goes to the even neighbour.
-/

namespace Montage.Number

/-! ## Nearest natural number -/

/-- The natural number nearest to `num / den`; a half goes to the even neighbour. -/
def roundDiv (num den : Nat) : Nat :=
  let whole := num / den
  let twice := 2 * (num % den)
  if twice < den then whole
  else if den < twice then whole + 1
  else if whole % 2 = 0 then whole
  else whole + 1

/-- The rounded quotient is at most half a unit away from the exact one. -/
theorem roundDiv_near (num den : Nat) (h : 0 < den) :
    2 * num ≤ 2 * (den * roundDiv num den) + den ∧
      2 * (den * roundDiv num den) ≤ 2 * num + den := by
  have hsum := Nat.div_add_mod num den
  have hrest := Nat.mod_lt num h
  have hnext : den * (num / den + 1) = den * (num / den) + den := Nat.mul_succ _ _
  simp only [roundDiv]
  split
  · omega
  · split
    · omega
    · split <;> omega

/-- A quotient that is a whole number is not changed. -/
theorem roundDiv_mul_right (whole den : Nat) (h : 0 < den) :
    roundDiv (whole * den) den = whole := by
  simp [roundDiv, Nat.mul_div_cancel _ h, h]

/-! ## Nearest number of bounded precision -/

/-- How many low binary digits must be given up so that `whole` fits into
    `precision` of them. -/
def excessBits (precision whole : Nat) : Nat :=
  whole.log2 + 1 - precision

/-- The number nearest to `num / den` that is a whole number of at most `precision`
    binary digits followed by zeros. -/
def roundToPrecision (precision num den : Nat) : Nat :=
  let shift := excessBits precision (num / den)
  roundDiv num (den * Nat.pow 2 shift) * Nat.pow 2 shift

/-- How many decimal digits a number is written with. -/
def decimalLength (n : Nat) : Nat :=
  n.repr.length

end Montage.Number
