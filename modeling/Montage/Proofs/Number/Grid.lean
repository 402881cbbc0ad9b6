/-
  Montage.Proofs.Number.Grid

  The grid of doubles, and where it ends.  A number is on the grid if it has at most 53 binary
  digits that are followed by zeros; rounding leads to the grid and leaves what is on it as it
  is.  A quotient rounds to a number of the grid exactly if it lies in the basin of that number.
  It rounds to an infinity from the middle between the largest double and the power of two after
  it: the middle itself goes there, since the largest significand is odd.
-/
import Mathlib.Tactic.Ring
import Mathlib.Tactic.Linarith
import Montage.Number.Decimal

namespace Montage.Number

/-! ## Rounded quotients -/

/-- A quotient that is less than half a unit away from a natural number is rounded to it;
    from half a unit away it is rounded to an even one. -/
theorem roundDiv_eq {num den whole : Nat} (hlow : 2 * num ≤ 2 * (whole * den) + den)
    (hhigh : 2 * (whole * den) ≤ 2 * num + den)
    (htie : whole % 2 = 0 ∨ 2 * num < 2 * (whole * den) + den ∧ 2 * (whole * den) < 2 * num + den)
    (hden : 0 < den) : roundDiv num den = whole := by
  have hsplit := Nat.div_add_mod num den
  have hrest := Nat.mod_lt num hden
  rw [Nat.mul_comm] at hsplit
  rcases Nat.lt_trichotomy whole (num / den) with hless | rfl | hmore
  · have hstep := Nat.mul_le_mul_right den (Nat.succ_le_of_lt hless)
    rw [Nat.succ_mul] at hstep
    omega
  · simp only [roundDiv]
    split
    · rfl
    · split
      · omega
      · exact if_pos (htie.elim id fun hstrict => by omega)
  · rcases Nat.lt_or_eq_of_le (Nat.succ_le_of_lt hmore) with hfar | rfl
    · have hstep := Nat.mul_le_mul_right den (Nat.succ_le_of_lt hfar)
      rw [Nat.succ_mul, Nat.succ_mul] at hstep
      omega
    · have hstep : (num / den).succ * den = num / den * den + den := Nat.succ_mul _ _
      rw [hstep] at hlow hhigh htie
      simp only [roundDiv]
      split
      · omega
      · split
        · rfl
        · exact if_neg (htie.elim (fun heven => by omega) fun hstrict => by omega)

/-! ## Binary digits -/

/-- Without its excess bits, a number has no more digits than the precision allows. -/
theorem lt_of_excessBits (precision whole : Nat) :
    whole < 2 ^ (precision + excessBits precision whole) := by
  have hlog := Nat.lt_log2_self (n := whole)
  refine Nat.lt_of_lt_of_le hlog (Nat.pow_le_pow_right (by decide) ?_)
  unfold excessBits
  omega

/-- A number with excess bits uses all digits that the precision allows. -/
theorem le_of_excessBits {precision whole : Nat} (hprecision : 0 < precision)
    (h : 0 < excessBits precision whole) :
    2 ^ (precision - 1 + excessBits precision whole) ≤ whole := by
  unfold excessBits at h ⊢
  have hne : whole ≠ 0 := by
    rintro rfl
    simp at h
    omega
  refine Nat.le_trans (Nat.pow_le_pow_right (by decide) ?_) (Nat.log2_self_le hne)
  omega

theorem excessBits_eq {precision whole shift : Nat} (hprecision : 0 < precision)
    (hlow : shift = 0 ∨ 2 ^ (precision - 1 + shift) ≤ whole)
    (hhigh : whole < 2 ^ (precision + shift)) : excessBits precision whole = shift := by
  -- more excess bits would need a larger number, and fewer a smaller one
  refine Nat.le_antisymm (Nat.le_of_not_lt fun hmore => ?_) (Nat.le_of_not_lt fun hless => ?_)
  · have hlarge := le_of_excessBits hprecision (Nat.zero_lt_of_lt hmore)
    have hpower : 2 ^ (precision + shift) ≤ 2 ^ (precision - 1 + excessBits precision whole) :=
      Nat.pow_le_pow_right (by decide) (by omega)
    omega
  · have hlarge := hlow.resolve_left (Nat.ne_of_gt (Nat.zero_lt_of_lt hless))
    have hsmall := lt_of_excessBits precision whole
    have hpower : 2 ^ (precision + excessBits precision whole) ≤ 2 ^ (precision - 1 + shift) :=
      Nat.pow_le_pow_right (by decide) (by omega)
    omega

/-- How many of the lowest binary digits of a number are given up. -/
theorem roundToPrecision_eq {precision num den shift : Nat}
    (h : excessBits precision (num / den) = shift) :
    roundToPrecision precision num den = roundDiv num (den * 2 ^ shift) * 2 ^ shift := by
  rw [← h]
  rfl

/-! ## Doubles -/

namespace Binary64

/-- A number of the grid is a significand that is followed by zeros. -/
structure IsScaled (units significand shift : Nat) : Prop where
  eq : units = significand * 2 ^ shift
  low : shift = 0 ∨ 2 ^ 52 ≤ significand
  high : significand < 2 ^ 53

theorem IsScaled.excessBits {units significand shift : Nat}
    (h : IsScaled units significand shift) : excessBits precision units = shift := by
  have hpos : 0 < 2 ^ shift := Nat.pow_pos (by decide)
  refine excessBits_eq (by decide) ?_ ?_
  · refine h.low.imp_right fun hlow => ?_
    rw [h.eq, precision, Nat.pow_add]
    exact Nat.mul_le_mul_right _ hlow
  · rw [h.eq, precision, Nat.pow_add]
    exact Nat.mul_lt_mul_of_pos_right h.high hpos

/-- A number of at most 53 digits, or the one after them all, followed by zeros. -/
theorem isScaled_of_le {count shift : Nat} (h : count ≤ 2 ^ 53) :
    ∃ significand zeros, IsScaled (count * 2 ^ shift) significand zeros := by
  -- digits before the zeros may be zeros themselves
  rcases Nat.lt_or_eq_of_le h with hlt | rfl
  · induction shift generalizing count with
    | zero => exact ⟨count, 0, by simp, .inl rfl, hlt⟩
    | succ shift ih =>
        by_cases hlow : 2 ^ 52 ≤ count
        · exact ⟨count, shift + 1, rfl, .inr hlow, hlt⟩
        · have hdouble : count * 2 ^ (shift + 1) = 2 * count * 2 ^ shift := by
            rw [Nat.pow_succ]
            ring
          rw [hdouble]
          exact ih (by omega) (by omega)
  · refine ⟨2 ^ 52, shift + 1, ?_, .inr (Nat.le_refl _), by decide⟩
    rw [Nat.pow_succ 2 shift, Nat.mul_comm (2 ^ shift), ← Nat.mul_assoc]
    rfl

theorem isScaled_roundToPrecision {num den : Nat} (hden : 0 < den) :
    ∃ significand shift, IsScaled (roundToPrecision precision num den) significand shift := by
  have hlt := lt_of_excessBits precision (num / den)
  rw [roundToPrecision_eq rfl]
  generalize Number.excessBits precision (num / den) = shift at hlt ⊢
  refine isScaled_of_le (Nat.le_of_not_lt fun hmore => ?_)
  have hunit : 0 < den * 2 ^ shift := Nat.mul_pos hden (Nat.pow_pos (by decide))
  -- the quotient is below `2 ^ 53`, so it is not rounded to more than that
  have hnum : num < 2 ^ 53 * (den * 2 ^ shift) := by
    rw [Nat.div_lt_iff_lt_mul hden, precision, Nat.pow_add] at hlt
    calc num < 2 ^ 53 * 2 ^ shift * den := hlt
      _ = 2 ^ 53 * (den * 2 ^ shift) := by ring
  have hnear := (roundDiv_near num (den * 2 ^ shift) hunit).2
  have hstep := Nat.mul_le_mul_left (den * 2 ^ shift) (Nat.succ_le_of_lt hmore)
  rw [Nat.mul_succ, Nat.mul_comm _ (2 ^ 53)] at hstep
  omega

theorem roundToPrecision_of_isScaled {units significand shift : Nat}
    (h : IsScaled units significand shift) : roundToPrecision precision units 1 = units := by
  have hpos : 0 < 2 ^ shift := Nat.pow_pos (by decide)
  have hshift : Number.excessBits precision (units / 1) = shift := by
    rw [Nat.div_one]
    exact h.excessBits
  rw [roundToPrecision_eq hshift, Nat.one_mul, h.eq, roundDiv_mul_right _ _ hpos]

theorem roundToPrecision_one_iff {units : Nat} :
    roundToPrecision precision units 1 = units ↔
      ∃ significand shift, IsScaled units significand shift := by
  constructor
  · intro h
    rw [← h]
    exact isScaled_roundToPrecision (by decide)
  · rintro ⟨significand, shift, h⟩
    exact roundToPrecision_of_isScaled h

/-- Whether a number is a double: if it is finite, it lies on the grid. -/
def IsDouble (x : Binary64) : Prop :=
  ∀ negative units, x = .finite negative units → OnGrid units

theorem isDouble_ofUnits (negative : Bool) {units : Nat}
    (h : roundToPrecision precision units 1 = units) : (ofUnits negative units).IsDouble := by
  intro sign count hfinite
  unfold ofUnits at hfinite
  by_cases hlt : units < overflowUnits
  · rw [if_pos hlt] at hfinite
    cases hfinite
    exact And.intro h hlt
  · rw [if_neg hlt] at hfinite
    cases hfinite

theorem isDouble_ofQuotient (negative : Bool) (num : Nat) {den : Nat} (hden : 0 < den) :
    (ofQuotient negative num den).IsDouble :=
  isDouble_ofUnits negative (roundToPrecision_one_iff.mpr (isScaled_roundToPrecision hden))

theorem isDouble_zero (negative : Bool) : (Binary64.finite negative 0).IsDouble := by
  intro sign count hfinite
  cases hfinite
  have hlt : 0 < overflowUnits := by decide +kernel
  exact And.intro (roundToPrecision_one_iff.mpr ⟨0, 0, rfl, .inl rfl, by decide⟩) hlt

theorem isDouble_infinite (negative : Bool) : (Binary64.infinite negative).IsDouble :=
  fun _ _ hfinite => by cases hfinite

theorem isDouble_nan : Binary64.nan.IsDouble :=
  fun _ _ hfinite => by cases hfinite

theorem isDouble_ofNat (n : Nat) : (ofNat n).IsDouble :=
  isDouble_ofQuotient false _ (by decide)

theorem isDouble_ofInt (i : Int) : (ofInt i).IsDouble :=
  isDouble_ofQuotient _ _ (by decide)

theorem isDouble_ofDecimal (negative : Bool) (digits : Nat) (exponent : Int) :
    (ofDecimal negative digits exponent).IsDouble := by
  unfold ofDecimal
  split_ifs
  · exact isDouble_zero negative
  · exact isDouble_infinite negative
  · exact isDouble_zero negative
  · exact isDouble_ofQuotient _ _ (by decide)
  · exact isDouble_ofQuotient _ _ (Nat.pow_pos (by decide))

end Binary64

/-! ## Rounded quotients below a bound -/

theorem div_le_roundDiv (num den : Nat) : num / den ≤ roundDiv num den := by
  simp only [roundDiv]
  split
  · exact Nat.le_refl _
  · split
    · exact Nat.le_succ _
    · split
      · exact Nat.le_refl _
      · exact Nat.le_succ _

/-- A quotient is rounded to at most a number if it is no more than the half after it; the half
    itself has to follow an even number. -/
theorem roundDiv_le_iff {num den whole : Nat} (hden : 0 < den) :
    roundDiv num den ≤ whole ↔
      2 * num < (2 * whole + 1) * den ∨ 2 * num = (2 * whole + 1) * den ∧ whole % 2 = 0 := by
  obtain ⟨habove, hbelow⟩ := roundDiv_near num den hden
  have hhalf : (2 * whole + 1) * den = 2 * (whole * den) + den := by ring
  constructor
  · intro hle
    have hstep := Nat.mul_le_mul_left den hle
    rw [Nat.mul_comm den whole] at hstep
    rcases Nat.lt_or_ge (2 * num) ((2 * whole + 1) * den) with hless | hmore
    · exact .inl hless
    · refine .inr ⟨by omega, ?_⟩
      -- a half after an odd number would be rounded up
      by_contra hodd
      have hnext : (whole + 1) * den = whole * den + den := Nat.succ_mul whole den
      have hup : roundDiv num den = whole + 1 :=
        roundDiv_eq (by omega) (by omega) (.inl (by omega)) hden
      omega
  · rintro (hless | ⟨htie, heven⟩)
    · by_contra hmore
      have hstep := Nat.mul_le_mul_left den (Nat.succ_le_of_lt (Nat.lt_of_not_le hmore))
      rw [Nat.mul_succ, Nat.mul_comm den whole] at hstep
      omega
    · exact Nat.le_of_eq (roundDiv_eq (by omega) (by omega) (.inl heven) hden)

/-- A half next to an odd number is rounded away from it. -/
theorem roundDiv_le_iff_of_odd {num den whole : Nat} (hden : 0 < den) (hodd : whole % 2 = 1) :
    roundDiv num den ≤ whole ↔ 2 * num < (2 * whole + 1) * den := by
  rw [roundDiv_le_iff hden]
  omega

/-! ## Digits of full precision -/

section Precision

variable {precision num den : Nat}

/-- A number lies below the power of two above its digits. -/
theorem lt_excessUnit (precision num : Nat) (hden : 0 < den) :
    num < 2 ^ precision * (den * 2 ^ excessBits precision (num / den)) := by
  have hlt := lt_of_excessBits precision (num / den)
  rw [Nat.div_lt_iff_lt_mul hden, Nat.pow_add] at hlt
  calc num < 2 ^ precision * 2 ^ excessBits precision (num / den) * den := hlt
    _ = 2 ^ precision * (den * 2 ^ excessBits precision (num / den)) := by ring

/-- A number that has excess bits is no less than the power of two at its first digit. -/
theorem excessUnit_le (hprecision : 0 < precision) (hden : 0 < den)
    (hexcess : 0 < excessBits precision (num / den)) :
    2 ^ (precision - 1) * (den * 2 ^ excessBits precision (num / den)) ≤ num := by
  have hle := le_of_excessBits hprecision hexcess
  rw [Nat.le_div_iff_mul_le hden, Nat.pow_add] at hle
  calc 2 ^ (precision - 1) * (den * 2 ^ excessBits precision (num / den))
      = 2 ^ (precision - 1) * 2 ^ excessBits precision (num / den) * den := by ring
    _ ≤ num := hle

/-- A number is rounded to no more than the power of two above its digits. -/
theorem roundToPrecision_le (precision num : Nat) (hden : 0 < den) :
    roundToPrecision precision num den ≤
      2 ^ (precision + excessBits precision (num / den)) := by
  have hnum := lt_excessUnit precision num hden
  rw [roundToPrecision_eq rfl, Nat.pow_add]
  generalize excessBits precision (num / den) = shift at hnum ⊢
  have hunit : 0 < den * 2 ^ shift := Nat.mul_pos hden (Nat.two_pow_pos shift)
  have hhalf : (2 * 2 ^ precision + 1) * (den * 2 ^ shift) =
      2 * (2 ^ precision * (den * 2 ^ shift)) + den * 2 ^ shift := by ring
  exact Nat.mul_le_mul_right _ ((roundDiv_le_iff hunit).mpr (.inl (by omega)))

/-- A number that has excess bits is rounded to no less than the power of two at its first
    digit. -/
theorem le_roundToPrecision (hprecision : 0 < precision) (hden : 0 < den)
    (hexcess : 0 < excessBits precision (num / den)) :
    2 ^ (precision - 1 + excessBits precision (num / den)) ≤
      roundToPrecision precision num den := by
  have hnum := excessUnit_le hprecision hden hexcess
  rw [roundToPrecision_eq rfl, Nat.pow_add]
  generalize excessBits precision (num / den) = shift at hnum ⊢
  have hunit : 0 < den * 2 ^ shift := Nat.mul_pos hden (Nat.two_pow_pos shift)
  have hwhole := (Nat.le_div_iff_mul_le hunit).mpr hnum
  exact Nat.mul_le_mul_right _ (Nat.le_trans hwhole (div_le_roundDiv num _))

/-- A quotient is rounded to less than a power of two exactly if it lies below the middle
    between that power and the number of full precision before it. -/
theorem roundToPrecision_lt_iff {shift : Nat} (hprecision : 0 < precision) (hden : 0 < den) :
    roundToPrecision precision num den < 2 ^ (precision + shift) ↔
      2 * num < (2 ^ (precision + 1) - 1) * (den * 2 ^ shift) := by
  have hone : 1 ≤ 2 ^ precision := Nat.one_le_two_pow
  have hpower : 2 ^ (precision + 1) = 2 * 2 ^ precision := Nat.pow_succ'
  rcases Nat.lt_trichotomy (excessBits precision (num / den)) shift with hless | hsame | hmore
  · -- the quotient has fewer digits than the bound, and so has what it is rounded to
    have hdouble : 2 * 2 ^ excessBits precision (num / den) ≤ 2 ^ shift := by
      rw [← Nat.pow_succ']
      exact Nat.pow_le_pow_right (by decide) hless
    refine iff_of_true ?_ ?_
    · calc roundToPrecision precision num den
          ≤ 2 ^ (precision + excessBits precision (num / den)) :=
            roundToPrecision_le precision num hden
        _ < 2 ^ (precision + shift) := Nat.pow_lt_pow_right (by decide) (by omega)
    · calc 2 * num < 2 * (2 ^ precision * (den * 2 ^ excessBits precision (num / den))) :=
            Nat.mul_lt_mul_of_pos_left (lt_excessUnit precision num hden) (by decide)
        _ = 2 ^ precision * (den * (2 * 2 ^ excessBits precision (num / den))) := by ring
        _ ≤ 2 ^ precision * (den * 2 ^ shift) :=
            Nat.mul_le_mul_left _ (Nat.mul_le_mul_left den hdouble)
        _ ≤ (2 ^ (precision + 1) - 1) * (den * 2 ^ shift) :=
            Nat.mul_le_mul_right _ (by omega)
  · -- the significand decides, and the largest one is odd
    have hunit : 0 < den * 2 ^ shift := Nat.mul_pos hden (Nat.two_pow_pos shift)
    have hodd : (2 ^ precision - 1) % 2 = 1 := by
      obtain ⟨rest, rfl⟩ : ∃ rest, precision = rest + 1 := ⟨precision - 1, by omega⟩
      rw [Nat.pow_succ'] at hone ⊢
      omega
    have htwice : 2 * (2 ^ precision - 1) + 1 = 2 ^ (precision + 1) - 1 := by omega
    rw [roundToPrecision_eq hsame, Nat.pow_add 2 precision shift,
      Nat.mul_lt_mul_right (Nat.two_pow_pos shift), ← htwice, ← roundDiv_le_iff_of_odd hunit hodd]
    omega
  · -- the quotient has more digits than the bound
    have hexcess := Nat.zero_lt_of_lt hmore
    have hdouble : 2 * 2 ^ shift ≤ 2 ^ excessBits precision (num / den) := by
      rw [← Nat.pow_succ']
      exact Nat.pow_le_pow_right (by decide) hmore
    have hfirst : 2 * 2 ^ (precision - 1) = 2 ^ precision := by
      rw [← Nat.pow_succ', Nat.succ_eq_add_one, Nat.sub_add_cancel hprecision]
    refine iff_of_false (Nat.not_lt.mpr ?_) (Nat.not_lt.mpr ?_)
    · calc 2 ^ (precision + shift)
          ≤ 2 ^ (precision - 1 + excessBits precision (num / den)) :=
            Nat.pow_le_pow_right (by decide) (by omega)
        _ ≤ roundToPrecision precision num den := le_roundToPrecision hprecision hden hexcess
    · calc (2 ^ (precision + 1) - 1) * (den * 2 ^ shift)
          ≤ 2 * (2 * 2 ^ (precision - 1)) * (den * 2 ^ shift) :=
            Nat.mul_le_mul_right _ (by omega)
        _ = 2 * (2 ^ (precision - 1) * (den * (2 * 2 ^ shift))) := by ring
        _ ≤ 2 * (2 ^ (precision - 1) * (den * 2 ^ excessBits precision (num / den))) :=
            Nat.mul_le_mul_left 2 (Nat.mul_le_mul_left _ (Nat.mul_le_mul_left den hdouble))
        _ ≤ 2 * num := Nat.mul_le_mul_left 2 (excessUnit_le hprecision hden hexcess)

end Precision

/-! ## The end of the doubles -/

namespace Binary64

/-- The middle between the largest double and the power of two after it, in units. -/
def overflowHalfway : Nat := overflowUnits - Nat.pow 2 2044

theorem roundToPrecision_lt_overflowUnits_iff {num den : Nat} (hden : 0 < den) :
    roundToPrecision precision num den < overflowUnits ↔ num < overflowHalfway * den := by
  have hpower : overflowUnits = 2 ^ (precision + 2045) := by decide +kernel
  have htwice : (2 ^ (precision + 1) - 1) * 2 ^ 2045 = 2 * overflowHalfway := by decide +kernel
  rw [hpower, roundToPrecision_lt_iff (by decide) hden, Nat.mul_comm den, ← Nat.mul_assoc, htwice,
    Nat.mul_assoc]
  omega

/-- A quotient is a finite double below the middle, and an infinity from there on. -/
theorem ofQuotient_eq_ite (negative : Bool) (num : Nat) {den : Nat} (hden : 0 < den) :
    ofQuotient negative num den =
      if num < overflowHalfway * den then .finite negative (roundToPrecision precision num den)
      else .infinite negative := by
  unfold ofQuotient ofUnits
  simp only [roundToPrecision_lt_overflowUnits_iff hden]

end Binary64

end Montage.Number
