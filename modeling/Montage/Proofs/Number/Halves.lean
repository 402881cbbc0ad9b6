/-
  Montage.Proofs.Number.Halves

  Rounding to integers, as seen from the halves between them.  A number is rounded to at most
  some integer if it lies below the half after that integer; the half itself is rounded down
  where that leads to an even number.  Two numbers are rounded alike if they lie on the same
  side of every half.

  The double nearest to a whole number of thousandths is off by no more than one part in
  `2 ^ 53`, so what it is rounded to is far from every half.
-/
import Mathlib.Algebra.Order.Field.Basic
import Mathlib.Tactic.Ring
import Montage.Proofs.Number.Monotone

namespace Montage.Number

/-! ## Halves -/

/-- Whether a number lies below the half after an integer.  The half itself lies below if the
    integer is even, and above if it is odd. -/
def LiesBelow (whole : Int) (x : ℚ) : Prop :=
  x < whole + 1 / 2 ∨ x = whole + 1 / 2 ∧ whole % 2 = 0

theorem liesBelow_neg (whole : Int) (x : ℚ) :
    LiesBelow whole (-x) ↔ ¬ LiesBelow (-whole - 1) x := by
  have hhalf : (((-whole - 1 : Int) : ℚ) + 1 / 2) = -(whole + 1 / 2) := by
    push_cast
    ring
  have hodd : (-whole - 1) % 2 = 0 ↔ ¬ whole % 2 = 0 := by omega
  unfold LiesBelow
  rw [hhalf, hodd]
  constructor
  · rintro (hless | ⟨htie, heven⟩) (hless' | ⟨htie', hodd'⟩)
    · linarith
    · linarith
    · linarith
    · exact hodd' heven
  · intro hnot
    rw [not_or, not_lt, not_and_not_right] at hnot
    rcases lt_or_eq_of_le hnot.1 with hmore | htie
    · exact .inl (by linarith)
    · exact .inr ⟨by linarith, hnot.2 htie.symm⟩

/-- The nearest integer is at most an integer if the number lies below the half after it. -/
theorem roundDiv_le_iff_liesBelow (num : Nat) {den : Nat} (hden : 0 < den) (whole : Int) :
    (roundDiv num den : Int) ≤ whole ↔ LiesBelow whole ((num : ℚ) / den) := by
  have hden' : (0 : ℚ) < den := Nat.cast_pos.mpr hden
  rcases Int.lt_or_le whole 0 with hneg | hpos
  · -- what is not negative is not below a negative half
    have hnum : (0 : ℚ) ≤ (num : ℚ) / den := by positivity
    have hhalf : (whole : ℚ) + 1 / 2 < 0 := by
      have : (whole : ℚ) ≤ -1 := by exact_mod_cast (by omega : whole ≤ -1)
      linarith
    refine iff_of_false (by omega) ?_
    rintro (hless | ⟨htie, -⟩) <;> linarith
  · obtain ⟨whole, rfl⟩ := Int.eq_ofNat_of_zero_le hpos
    have hless : (num : ℚ) / den < (whole : Int) + 1 / 2 ↔ 2 * num < (2 * whole + 1) * den := by
      rw [div_lt_iff₀ hden', ← Nat.cast_lt (α := ℚ)]
      push_cast
      constructor <;> intro h <;> linarith
    have htie : (num : ℚ) / den = (whole : Int) + 1 / 2 ↔ 2 * num = (2 * whole + 1) * den := by
      rw [div_eq_iff hden'.ne', ← Nat.cast_inj (R := ℚ)]
      push_cast
      constructor <;> intro h <;> linarith
    have heven : (whole : Int) % 2 = 0 ↔ whole % 2 = 0 := by omega
    rw [Int.ofNat_le, roundDiv_le_iff hden, LiesBelow, hless, htie, heven]

/-- The same for numbers of either sign. -/
theorem signed_roundDiv_le_iff (negative : Bool) (num : Nat) {den : Nat} (hden : 0 < den)
    (whole : Int) :
    Binary64.signed negative (roundDiv num den) ≤ whole ↔
      LiesBelow whole ((Binary64.signed negative num : ℚ) / den) := by
  cases negative with
  | false => exact roundDiv_le_iff_liesBelow num hden whole
  | true =>
      have hvalue : ((Binary64.signed true num : Int) : ℚ) / den = -((num : ℚ) / den) := by
        simp only [Binary64.signed, if_true]
        push_cast
        ring
      rw [hvalue, liesBelow_neg, ← roundDiv_le_iff_liesBelow num hden]
      simp only [Binary64.signed, if_true]
      omega

/-- Numbers are rounded to the same integer if they lie on the same side of every half. -/
theorem signed_roundDiv_eq_iff (negative other : Bool) (num more : Nat) {den : Nat}
    (hden : 0 < den) :
    Binary64.signed negative (roundDiv num den) = Binary64.signed other (roundDiv more den) ↔
      ∀ whole, LiesBelow whole ((Binary64.signed negative num : ℚ) / den) ↔
        LiesBelow whole ((Binary64.signed other more : ℚ) / den) := by
  simp only [← signed_roundDiv_le_iff _ _ hden]
  constructor
  · intro hsame whole
    rw [hsame]
  · intro hsides
    exact Int.le_antisymm ((hsides _).mpr (Int.le_refl _)) ((hsides _).mp (Int.le_refl _))

/-! ## Whole thousandths -/

namespace Binary64

/-- A number of full precision is changed by no more than one part in `2 ^ 53`. -/
theorem roundToPrecision_near {num den : Nat} (hden : 0 < den) (hlarge : 2 ^ 52 ≤ num / den) :
    2 ^ 53 * num ≤ 2 ^ 53 * (den * roundToPrecision precision num den) + num ∧
      2 ^ 53 * (den * roundToPrecision precision num den) ≤ 2 ^ 53 * num + num := by
  have hfull : 2 ^ (52 + excessBits precision (num / den)) ≤ num / den := by
    rcases Nat.eq_zero_or_pos (excessBits precision (num / den)) with hzero | hpos
    · rw [hzero]
      exact hlarge
    · have hprecision : 0 < precision := by decide
      exact le_of_excessBits hprecision hpos
  rw [roundToPrecision_eq rfl]
  generalize excessBits precision (num / den) = shift at hfull ⊢
  obtain ⟨habove, hbelow⟩ :=
    roundDiv_near num (den * 2 ^ shift) (Nat.mul_pos hden (Nat.two_pow_pos shift))
  -- the last digit that is kept is a small part of the number
  have hunit : 2 ^ 52 * (den * 2 ^ shift) ≤ num := by
    rw [Nat.le_div_iff_mul_le hden, Nat.pow_add] at hfull
    calc 2 ^ 52 * (den * 2 ^ shift) = 2 ^ 52 * 2 ^ shift * den := by ring
      _ ≤ num := hfull
  have hsame : den * (roundDiv num (den * 2 ^ shift) * 2 ^ shift) =
      den * 2 ^ shift * roundDiv num (den * 2 ^ shift) := by ring
  rw [hsame]
  omega

/-- The double nearest to a whole number of thousandths. -/
theorem ofDecimal_thousandths {count : Nat} (hpos : 0 < count) (hcount : count ≤ 2 ^ 50) :
    ofDecimal false count (-3) =
      .finite false (roundToPrecision precision (count * unitsPerOne) 1000) := by
  have hlength : decimalLength count ≤ 16 := by
    rw [decimalLength, ← String.length_toList, Nat.toList_repr]
    exact (Nat.length_toDigits_le_iff (by decide) (by decide)).mpr (by omega)
  have hrange : count * unitsPerOne < overflowHalfway * 1000 := by
    have hbound : 2 ^ 50 * unitsPerOne < overflowHalfway * 1000 := by decide +kernel
    exact Nat.lt_of_le_of_lt (Nat.mul_le_mul_right _ hcount) hbound
  have hden : Nat.pow 10 (-(-3 : Int)).toNat = 1000 := by decide
  unfold ofDecimal
  rw [if_neg (Nat.ne_of_gt hpos), if_neg (by omega), if_neg (by omega), if_neg (by decide), hden,
    ofQuotient_eq_ite false _ (by decide), if_pos hrange]

end Binary64

end Montage.Number
