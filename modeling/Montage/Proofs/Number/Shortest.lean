/-
  Montage.Proofs.Number.Shortest

  Decimals that read back.  A decimal that lies in the basin of a double is read as that
  double, and the shortest digits of a double lie there: seventeen digits are enough to
  come so near to any double.
-/
import Mathlib.Data.List.TakeWhile
import Mathlib.Data.Rat.Cast.Order
import Mathlib.Tactic.FieldSimp
import Mathlib.Tactic.NormNum
import Montage.Proofs.Number.Grid

namespace Montage.Number

open Binary64

namespace Decimal

/-! ## Basins -/

/-- Whether a quotient, in units, lies in a basin. -/
structure Basin.Holds (around : Basin) (num den : Nat) : Prop where
  low : around.low * den ≤ 4 * num
  high : 4 * num ≤ around.high * den
  strict : around.closed = false → around.low * den < 4 * num ∧ 4 * num < around.high * den

/-- How far below a number of the grid its basin begins, in quarters of a unit. -/
def spaceBelow (significand shift : Nat) : Nat :=
  if significand = 2 ^ 52 ∧ 0 < shift then 2 ^ shift else 2 * 2 ^ shift

theorem basin_eq {units significand shift : Nat} (h : IsScaled units significand shift) :
    basin units =
      { low := 4 * units - spaceBelow significand shift
        high := 4 * units + 2 * 2 ^ shift
        closed := significand % 2 = 0 } := by
  have hsignificand : units / Nat.pow 2 shift = significand := by
    rw [h.eq]
    exact Nat.mul_div_cancel _ (Nat.pow_pos Nat.zero_lt_two)
  unfold basin
  rw [h.excessBits]
  dsimp only
  rw [hsignificand]
  rfl

theorem spaceBelow_le (significand shift : Nat) : spaceBelow significand shift ≤ 2 * 2 ^ shift := by
  unfold spaceBelow
  split <;> omega

/-- A positive number of the grid is at least as large as the space between its neighbours. -/
theorem spacing_le {units significand shift : Nat} (h : IsScaled units significand shift)
    (hunits : 0 < units) : 2 ^ shift ≤ units := by
  have hpositive : 0 < significand := by
    refine Nat.pos_of_ne_zero fun hzero => ?_
    rw [h.eq, hzero, Nat.zero_mul] at hunits
    exact Nat.lt_irrefl 0 hunits
  rw [h.eq]
  exact Nat.le_mul_of_pos_left _ hpositive

/-- The excess bits of a quotient, from bounds for the quotient. -/
theorem excessBits_div_eq {num den shift : Nat} (hden : 0 < den)
    (hlow : shift = 0 ∨ 2 ^ 52 * (den * 2 ^ shift) ≤ num)
    (hhigh : num < 2 ^ 53 * (den * 2 ^ shift)) : excessBits precision (num / den) = shift := by
  have hmove : ∀ bits, 2 ^ (bits + shift) * den = 2 ^ bits * (den * 2 ^ shift) := by
    intro bits
    rw [Nat.pow_add]
    ring
  refine excessBits_eq (by decide) ?_ ?_
  · refine hlow.imp_right fun hle => (Nat.le_div_iff_mul_le hden).mpr ?_
    exact (hmove 52).trans_le hle
  · refine (Nat.div_lt_iff_lt_mul hden).mpr ?_
    exact hhigh.trans_eq (hmove 53).symm

/-- What lies in the basin of a double is rounded to it. -/
theorem roundToPrecision_of_holds {units significand shift num den : Nat}
    (hscaled : IsScaled units significand shift) (hden : 0 < den)
    (h : (basin units).Holds num den) : roundToPrecision precision num den = units := by
  rw [basin_eq hscaled] at h
  obtain ⟨hlow, hhigh, hstrict⟩ := h
  have hspace : 0 < den * 2 ^ shift := Nat.mul_pos hden (Nat.pow_pos Nat.zero_lt_two)
  have hunits : units * den = significand * (den * 2 ^ shift) := by
    rw [hscaled.eq]
    ring
  have hpower : 2 * 2 ^ shift * den = 2 * (den * 2 ^ shift) := by ring
  have htop := Nat.mul_le_mul_right (den * 2 ^ shift) (Nat.succ_le_of_lt hscaled.high)
  rw [Nat.succ_mul] at htop
  simp only [Nat.sub_mul, Nat.add_mul, Nat.mul_assoc 4, hunits, hpower] at hlow hhigh hstrict
  by_cases hbottom : significand = 2 ^ 52 ∧ 0 < shift
  -- just above a power of two, the numbers below are nearer to each other
  · obtain ⟨rfl, hshift⟩ := hbottom
    obtain ⟨less, rfl⟩ : ∃ less, shift = less + 1 := ⟨shift - 1, by omega⟩
    have hbelow : spaceBelow (2 ^ 52) (less + 1) * den = den * 2 ^ (less + 1) := by
      rw [spaceBelow, if_pos ⟨rfl, hshift⟩, Nat.mul_comm]
    have hhalf : den * 2 ^ (less + 1) = 2 * (den * 2 ^ less) := by
      rw [Nat.pow_succ]
      ring
    rw [hbelow] at hlow hstrict
    by_cases hover : 2 ^ 52 * (den * 2 ^ (less + 1)) ≤ num
    · have hsame : excessBits precision (num / den) = less + 1 :=
        excessBits_div_eq hden (.inr hover) (by omega)
      rw [roundToPrecision_eq hsame, hscaled.eq]
      congr 1
      exact roundDiv_eq (by omega) (by omega) (.inl (by decide)) hspace
    · rw [hhalf] at hlow hhigh hover hspace
      have hless : excessBits precision (num / den) = less :=
        excessBits_div_eq hden (.inr (by omega)) (by omega)
      have hround : roundDiv num (den * 2 ^ less) = 2 ^ 53 :=
        roundDiv_eq (by omega) (by omega) (.inl (by decide)) (by omega)
      rw [roundToPrecision_eq hless, hround, hscaled.eq, Nat.pow_succ 2 less]
      ring
  · have hbelow : spaceBelow significand shift * den = 2 * (den * 2 ^ shift) := by
      rw [spaceBelow, if_neg hbottom, hpower]
    rw [hbelow] at hlow hstrict
    have hshift : excessBits precision (num / den) = shift := by
      refine excessBits_div_eq hden ?_ (by omega)
      rcases Nat.eq_zero_or_pos shift with hzero | hshift
      · exact .inl hzero
      · have hlarge := hscaled.low.resolve_left (Nat.ne_of_gt hshift)
        have hmore : 2 ^ 52 + 1 ≤ significand := by omega
        have hstep := Nat.mul_le_mul_right (den * 2 ^ shift) hmore
        rw [Nat.add_mul, Nat.one_mul] at hstep
        exact .inr (by omega)
    rw [roundToPrecision_eq hshift, hscaled.eq]
    congr 1
    refine roundDiv_eq (by omega) (by omega) ?_ hspace
    rcases Nat.mod_two_eq_zero_or_one significand with heven | hodd
    · exact .inl heven
    · have hends := hstrict (by simp [hodd])
      exact .inr (by omega)

/-- Whether a quotient lies in a basin does not depend on how it is written. -/
theorem Basin.Holds.of_cross {around : Basin} {num den num' den' : Nat}
    (h : around.Holds num den) (hden : 0 < den) (hden' : 0 < den')
    (hcross : num * den' = num' * den) : around.Holds num' den' := by
  have hnum : 4 * num * den' = 4 * num' * den := by
    rw [Nat.mul_assoc, hcross, Nat.mul_assoc]
  have hbound : ∀ bound, bound * den * den' = bound * den' * den := fun bound =>
    Nat.mul_right_comm bound den den'
  have habove : ∀ bound, bound * den ≤ 4 * num ↔ bound * den' ≤ 4 * num' := by
    intro bound
    rw [← Nat.mul_le_mul_right_iff hden', hbound, hnum, Nat.mul_le_mul_right_iff hden]
  have hbelow : ∀ bound, 4 * num ≤ bound * den ↔ 4 * num' ≤ bound * den' := by
    intro bound
    rw [← Nat.mul_le_mul_right_iff hden', hbound, hnum, Nat.mul_le_mul_right_iff hden]
  refine ⟨(habove _).mp h.low, (hbelow _).mp h.high, fun hopen => ?_⟩
  obtain ⟨hlow, hhigh⟩ := h.strict hopen
  rw [← Nat.not_le, hbelow, Nat.not_le] at hlow
  rw [← Nat.not_le, habove, Nat.not_le] at hhigh
  exact ⟨hlow, hhigh⟩

/-- The basin of a positive double keeps away from zero and ends soon after the double. -/
theorem Basin.Holds.bounds {units significand shift num den : Nat}
    (hscaled : IsScaled units significand shift) (hunits : 0 < units)
    (h : (basin units).Holds num den) : den ≤ 2 * num ∧ 2 * num ≤ 3 * (units * den) := by
  rw [basin_eq hscaled] at h
  obtain ⟨hlow, hhigh, -⟩ := h
  dsimp only at hlow hhigh
  have hspacing := spacing_le hscaled hunits
  have hspace := spaceBelow_le significand shift
  constructor
  · have htwo : 2 * den ≤ (4 * units - spaceBelow significand shift) * den :=
      Nat.mul_le_mul_right den (by omega)
    omega
  · have hsix : (4 * units + 2 * 2 ^ shift) * den ≤ 6 * (units * den) := by
      rw [← Nat.mul_assoc]
      exact Nat.mul_le_mul_right den (by omega)
    omega

/-! ## Values of decimals -/

namespace Scaled

/-- The value of a decimal. -/
def value (d : Scaled) : ℚ :=
  d.significand * 10 ^ d.exponent

/-- The value of a decimal in units, as a quotient of natural numbers. -/
def num (d : Scaled) : Nat :=
  d.significand * 10 ^ d.exponent.toNat * unitsPerOne

def den (d : Scaled) : Nat :=
  10 ^ (-d.exponent).toNat

theorem den_pos (d : Scaled) : 0 < d.den :=
  Nat.pow_pos (by decide)

theorem num_eq (d : Scaled) : (d.num : ℚ) = d.value * unitsPerOne * d.den := by
  have hpower : (10 : ℚ) ^ d.exponent.toNat = 10 ^ d.exponent * 10 ^ (-d.exponent).toNat := by
    rw [← zpow_natCast, ← zpow_natCast, ← zpow_add₀ (by norm_num)]
    congr 1
    omega
  rw [num, value, den]
  push_cast
  rw [hpower]
  ring

/-- Decimals of one value are one quotient. -/
theorem cross_of_value {d d' : Scaled} (h : d.value = d'.value) : d.num * d'.den = d'.num * d.den := by
  have hcast : ((d.num * d'.den : Nat) : ℚ) = ((d'.num * d.den : Nat) : ℚ) := by
    push_cast
    rw [num_eq, num_eq, h]
    ring
  exact_mod_cast hcast

end Scaled

/-! ## The range of decimals -/

theorem decimalLength_eq (n : Nat) : decimalLength n = (Nat.toDigits 10 n).length := by
  rw [decimalLength, ← String.length_toList, Nat.toList_repr]

theorem decimalLength_pos (n : Nat) : 0 < decimalLength n := by
  rw [decimalLength_eq]
  exact Nat.length_toDigits_pos

theorem lt_of_decimalLength (n : Nat) : n < 10 ^ decimalLength n := by
  have hle := Nat.le_refl (decimalLength n)
  rw [decimalLength_eq] at hle ⊢
  exact (Nat.length_toDigits_le_iff (by decide) Nat.length_toDigits_pos).mp hle

theorem le_of_decimalLength {n : Nat} (h : 0 < n) : 10 ^ (decimalLength n - 1) ≤ n := by
  rw [decimalLength_eq]
  by_contra hlt
  rw [Nat.not_le] at hlt
  rcases Nat.eq_zero_or_pos ((Nat.toDigits 10 n).length - 1) with hone | hmore
  · rw [hone] at hlt
    omega
  · have hshort := (Nat.length_toDigits_le_iff (by decide) hmore).mpr hlt
    omega

namespace Scaled

variable {d : Scaled}

theorem value_lt (d : Scaled) : d.value < 10 ^ (d.exponent + decimalLength d.significand) := by
  have hlt : (d.significand : ℚ) < 10 ^ decimalLength d.significand := by
    exact_mod_cast lt_of_decimalLength d.significand
  rw [zpow_add₀ (by norm_num), zpow_natCast, mul_comm, value]
  exact mul_lt_mul_of_pos_right hlt (zpow_pos (by norm_num) _)

theorem le_value (h : 0 < d.significand) :
    10 ^ (d.exponent + decimalLength d.significand - 1) ≤ d.value := by
  have hle : (10 : ℚ) ^ (decimalLength d.significand - 1) ≤ d.significand := by
    exact_mod_cast le_of_decimalLength h
  have hexponent : d.exponent + (decimalLength d.significand : Int) - 1 =
      (decimalLength d.significand - 1 : Nat) + d.exponent := by
    have hpos := decimalLength_pos d.significand
    omega
  rw [hexponent, zpow_add₀ (by norm_num), zpow_natCast, value]
  exact mul_le_mul_of_nonneg_right hle (zpow_pos (by norm_num) _).le

theorem significand_pos (h : 0 < d.num) : 0 < d.significand := by
  refine Nat.pos_of_ne_zero fun hzero => ?_
  rw [num, hzero, Nat.zero_mul, Nat.zero_mul] at h
  exact Nat.lt_irrefl 0 h

/-- A decimal near a double does not lie far outside the range of doubles. -/
theorem exponent_bounds {units : Nat} (hpos : 0 < d.significand) (hlow : d.den ≤ 2 * d.num)
    (hhigh : 2 * d.num ≤ 3 * (units * d.den)) (hunits : units < overflowUnits) :
    -400 ≤ d.exponent + decimalLength d.significand ∧
      d.exponent + decimalLength d.significand ≤ 400 := by
  have hden : (0 : ℚ) < d.den := by exact_mod_cast d.den_pos
  have hone : (1 : ℚ) ≤ 2 * (d.value * unitsPerOne) := by
    have hcast : (d.den : ℚ) ≤ 2 * d.num := by exact_mod_cast hlow
    rw [num_eq, ← mul_assoc] at hcast
    exact (le_mul_iff_one_le_left hden).mp hcast
  have hmost : 2 * (d.value * unitsPerOne) ≤ 3 * (units : ℚ) := by
    have hcast : (2 * d.num : ℚ) ≤ 3 * (units * d.den) := by exact_mod_cast hhigh
    rw [num_eq, ← mul_assoc, ← mul_assoc 3] at hcast
    exact le_of_mul_le_mul_right hcast hden
  have hunit : (0 : ℚ) < unitsPerOne := by
    have hnat : 0 < unitsPerOne := by decide +kernel
    exact_mod_cast hnat
  constructor
  · by_contra hout
    have hsmall : d.value < 10 ^ (-401 : Int) :=
      lt_of_lt_of_le d.value_lt (zpow_le_zpow_right₀ (by norm_num) (by omega))
    have hrange : 2 * (unitsPerOne : ℚ) < 10 ^ (401 : Int) := by
      have hnat : 2 * unitsPerOne < 10 ^ 401 := by decide +kernel
      exact_mod_cast hnat
    have hless : d.value * 10 ^ (401 : Int) < 1 := by
      rwa [zpow_neg, ← one_div, lt_div_iff₀ (zpow_pos (by norm_num) _)] at hsmall
    refine absurd hrange (not_lt.mpr ?_)
    calc (10 : ℚ) ^ (401 : Int)
        ≤ 2 * (d.value * unitsPerOne) * 10 ^ (401 : Int) :=
          le_mul_of_one_le_left (zpow_pos (by norm_num) _).le hone
      _ = d.value * 10 ^ (401 : Int) * (2 * unitsPerOne) := by ring
      _ ≤ 2 * unitsPerOne := mul_le_of_le_one_left (mul_pos two_pos hunit).le hless.le
  · by_contra hout
    have hlarge : (10 : ℚ) ^ (400 : Int) ≤ d.value :=
      le_trans (zpow_le_zpow_right₀ (by norm_num) (by omega)) (le_value hpos)
    have hrange : 3 * (units : ℚ) < 2 * (10 ^ (400 : Int) * unitsPerOne) := by
      have hnat : 3 * overflowUnits < 2 * (10 ^ 400 * unitsPerOne) := by decide +kernel
      have hless : 3 * units < 2 * (10 ^ 400 * unitsPerOne) := by omega
      exact_mod_cast hless
    have hscaled := mul_le_mul_of_nonneg_right hlarge hunit.le
    linarith

/-- A decimal in the basin of a positive double is read as that double. -/
theorem ofDecimal_of_holds (negative : Bool) {units : Nat} (hgrid : OnGrid units)
    (hunits : 0 < units) (h : (basin units).Holds d.num d.den) :
    ofDecimal negative d.significand d.exponent = .finite negative units := by
  obtain ⟨significand, shift, hscaled⟩ := roundToPrecision_one_iff.mp hgrid.1
  obtain ⟨hlow, hhigh⟩ := h.bounds hscaled hunits
  have hden := d.den_pos
  have hpos : 0 < d.significand := significand_pos (by omega)
  obtain ⟨hsmall, hlarge⟩ := exponent_bounds hpos hlow hhigh hgrid.2
  have hround := roundToPrecision_of_holds hscaled hden h
  unfold ofDecimal
  rw [if_neg (Nat.ne_of_gt hpos), if_neg (Int.not_lt.mpr hlarge), if_neg (Int.not_lt.mpr hsmall)]
  have hunits' : ofUnits negative (roundToPrecision precision d.num d.den) =
      .finite negative units := by
    rw [hround, ofUnits, if_pos hgrid.2]
  rw [num, den] at hunits'
  simp only [ofQuotient, Nat.pow_eq]
  split
  next hexponent =>
    have hnone : (-d.exponent).toNat = 0 := Int.toNat_of_nonpos (by omega)
    rw [hnone, Nat.pow_zero] at hunits'
    exact hunits'
  next hexponent =>
    have hnone : d.exponent.toNat = 0 := Int.toNat_of_nonpos (by omega)
    rw [hnone, Nat.pow_zero, Nat.mul_one] at hunits'
    exact hunits'

end Scaled

/-! ## Digits -/

/-- Whether a number of steps lies in a basin, measured in parts of a quarter of a unit. -/
def Basin.contains (around : Basin) (up step candidate : Nat) : Bool :=
  if around.closed then
    around.low * up ≤ candidate * step && candidate * step ≤ around.high * up
  else around.low * up < candidate * step && candidate * step < around.high * up

/-- The parts of a quarter of a unit, and the step in parts, for decimals with so many
    places. -/
def parts (places : Int) : Nat :=
  10 ^ places.toNat

def stepOf (places : Int) : Nat :=
  4 * unitsPerOne * 10 ^ (-places).toNat

theorem Basin.holds_of_contains {around : Basin} {places : Int} {candidate : Nat}
    (h : around.contains (parts places) (stepOf places) candidate = true) :
    around.Holds (Scaled.num ⟨candidate, -places⟩) (Scaled.den ⟨candidate, -places⟩) := by
  have hnum : 4 * Scaled.num ⟨candidate, -places⟩ = candidate * stepOf places := by
    rw [Scaled.num, stepOf]
    ring
  have hden : Scaled.den ⟨candidate, -places⟩ = parts places := by
    rw [Scaled.den, parts, neg_neg]
  unfold Basin.contains at h
  cases hclosed : around.closed with
  | true =>
      rw [hclosed, if_pos rfl, Bool.and_eq_true, decide_eq_true_eq, decide_eq_true_eq] at h
      refine ⟨?_, ?_, fun hopen => ?_⟩
      · rw [hnum, hden]
        exact h.1
      · rw [hnum, hden]
        exact h.2
      · rw [hclosed] at hopen
        cases hopen
  | false =>
      rw [hclosed, if_neg Bool.false_ne_true, Bool.and_eq_true, decide_eq_true_eq,
        decide_eq_true_eq] at h
      rw [← hnum, ← hden] at h
      exact ⟨h.1.le, h.2.le, fun _ => h⟩

theorem shortestOfLength?_eq (units count : Nat) :
    shortestOfLength? units count =
      let places : Int := count - digitsBeforePoint units
      let value := 4 * units * parts places
      let floor := value / stepOf places
      let nearest := roundDiv value (stepOf places)
      let other := if nearest = floor then floor + 1 else floor
      if (basin units).contains (parts places) (stepOf places) nearest then some ⟨nearest, -places⟩
      else if (basin units).contains (parts places) (stepOf places) other then
        some ⟨other, -places⟩
      else none := rfl

/-- A decimal that was found lies in the basin. -/
theorem holds_of_shortestOfLength? {units count : Nat} {d : Scaled}
    (h : shortestOfLength? units count = some d) : (basin units).Holds d.num d.den := by
  rw [shortestOfLength?_eq] at h
  dsimp only at h
  generalize roundDiv _ _ = nearest at h
  generalize (if nearest = _ then _ else _) = other at h
  split at h
  next hnearest =>
    obtain rfl := Option.some.inj h
    exact Basin.holds_of_contains hnearest
  next =>
    split at h
    next hother =>
      obtain rfl := Option.some.inj h
      exact Basin.holds_of_contains hother
    next => cases h

/-! ## Seventeen digits -/

/-- If the steps are small beside the basin, the nearest of them lies in it. -/
theorem contains_nearest {units significand shift up step : Nat}
    (hscaled : IsScaled units significand shift) (hunits : 0 < units) (hstep : 0 < step)
    (hnarrow : step < 2 * (spaceBelow significand shift * up)) :
    (basin units).contains up step (roundDiv (4 * units * up) step) = true := by
  obtain ⟨hlow, hhigh⟩ := roundDiv_near (4 * units * up) step hstep
  rw [Nat.mul_comm step] at hlow hhigh
  have hspacing := spacing_le hscaled hunits
  have hspace := spaceBelow_le significand shift
  have habove := Nat.mul_le_mul_right up hspace
  have hbelow : spaceBelow significand shift * up ≤ 4 * units * up :=
    Nat.mul_le_mul_right up (by omega)
  have hinside : (4 * units - spaceBelow significand shift) * up <
        roundDiv (4 * units * up) step * step ∧
      roundDiv (4 * units * up) step * step < (4 * units + 2 * 2 ^ shift) * up := by
    rw [Nat.sub_mul, Nat.add_mul]
    omega
  rw [basin_eq hscaled]
  unfold Basin.contains
  split
  · rw [Bool.and_eq_true, decide_eq_true_eq, decide_eq_true_eq]
    exact ⟨hinside.1.le, hinside.2.le⟩
  · rw [Bool.and_eq_true, decide_eq_true_eq, decide_eq_true_eq]
    exact hinside

/-- A double has at least seventeen digits in steps of its seventeenth digit. -/
theorem step_le_of_digits {units : Nat} (hunits : 0 < units) :
    10 ^ 16 * stepOf (17 - digitsBeforePoint units) ≤
      4 * (units * parts (17 - digitsBeforePoint units)) := by
  have hunit : 0 < unitsPerOne := by decide +kernel
  have hrange : unitsPerOne ≤ Nat.pow 10 400 := by decide +kernel
  have hfirst : 0 < units * Nat.pow 10 400 / unitsPerOne :=
    Nat.div_pos (hrange.trans (Nat.le_mul_of_pos_left _ hunits)) hunit
  have hdigits := le_of_decimalLength hfirst
  have hlength := decimalLength_pos (units * Nat.pow 10 400 / unitsPerOne)
  have hwhole := Nat.div_mul_le_self (units * Nat.pow 10 400) unitsPerOne
  unfold digitsBeforePoint stepOf parts
  generalize units * Nat.pow 10 400 / unitsPerOne = count at *
  generalize decimalLength count = length at *
  have hshift : 10 ^ 16 * 10 ^ (-((17 : Int) - (length - 400))).toNat * Nat.pow 10 400 =
      10 ^ ((17 : Int) - (length - 400)).toNat * 10 ^ (length - 1) := by
    -- the exponent is named, so that the power is not computed
    obtain ⟨scaling, hscaling⟩ : ∃ scaling, scaling = 400 := ⟨_, rfl⟩
    rw [← hscaling, Nat.pow_eq, ← Nat.pow_add, ← Nat.pow_add, ← Nat.pow_add]
    congr 1
    omega
  have hscale : 0 < Nat.pow 10 400 := by decide +kernel
  generalize Nat.pow 10 400 = scale at *
  generalize 10 ^ ((17 : Int) - (length - 400)).toNat = up at *
  generalize 10 ^ (-((17 : Int) - (length - 400))).toNat = down at *
  generalize unitsPerOne = unit at *
  refine le_of_mul_le_mul_right ?_ hscale
  calc 10 ^ 16 * (4 * unit * down) * scale
      = 4 * unit * (10 ^ 16 * down * scale) := by ring
    _ = 4 * up * (10 ^ (length - 1) * unit) := by rw [hshift]; ring
    _ ≤ 4 * up * (count * unit) := Nat.mul_le_mul_left _ (Nat.mul_le_mul_right unit hdigits)
    _ ≤ 4 * up * (units * scale) := Nat.mul_le_mul_left _ hwhole
    _ = 4 * (units * up) * scale := by ring

theorem exists_shortestOfLength?_seventeen {units : Nat} (hgrid : OnGrid units)
    (hunits : 0 < units) : ∃ d, shortestOfLength? units 17 = some d := by
  obtain ⟨significand, shift, hscaled⟩ := roundToPrecision_one_iff.mp hgrid.1
  have hdigits := step_le_of_digits hunits
  have hstep : 0 < stepOf (17 - digitsBeforePoint units) := by
    have hunit : 0 < unitsPerOne := by decide +kernel
    exact Nat.mul_pos (Nat.mul_pos (by decide) hunit) (Nat.pow_pos (by decide))
  have hnarrow : stepOf (17 - digitsBeforePoint units) <
      2 * (spaceBelow significand shift * parts (17 - digitsBeforePoint units)) := by
    have hpos : 0 < 2 ^ shift * parts (17 - digitsBeforePoint units) :=
      Nat.mul_pos (Nat.pow_pos Nat.zero_lt_two) (Nat.pow_pos (by decide))
    generalize stepOf (17 - digitsBeforePoint units) = step at *
    generalize parts (17 - digitsBeforePoint units) = up at *
    rw [hscaled.eq, Nat.mul_assoc significand] at hdigits
    unfold spaceBelow
    split
    next hbottom =>
      rw [hbottom.1] at hdigits
      omega
    next =>
      have hless := Nat.mul_le_mul_right (2 ^ shift * up) (Nat.succ_le_of_lt hscaled.high)
      rw [Nat.succ_mul] at hless
      rw [Nat.mul_assoc]
      omega
  have hinside := contains_nearest hscaled hunits hstep hnarrow
  rw [shortestOfLength?_eq]
  exact ⟨_, if_pos hinside⟩

/-! ## Trailing zeros -/

/-- A number is a multiple of the power of ten that its trailing zeros stand for. -/
theorem pow_dvd_of_trailing (n : Nat) :
    10 ^ (n.repr.toList.reverse.takeWhile (· == '0')).length ∣ n := by
  have hsplit := @List.takeWhile_append_dropWhile Char (· == '0') n.repr.toList.reverse
  generalize hzeros : n.repr.toList.reverse.takeWhile (· == '0') = zeros at *
  have hall : zeros = List.replicate zeros.length '0' := by
    refine List.eq_replicate_of_mem fun c hc => ?_
    rw [← hzeros] at hc
    have hzero := List.mem_takeWhile_imp hc
    exact eq_of_beq hzero
  have hdigits : n.repr.toList =
      (n.repr.toList.reverse.dropWhile (· == '0')).reverse ++ List.replicate zeros.length '0' := by
    rw [← List.reverse_replicate, ← hall, ← List.reverse_append, hsplit, List.reverse_reverse]
  have hread := congrArg (fun digits => Nat.ofDigitChars 10 digits 0) hdigits
  simp only [Nat.ofDigitChars_append, Nat.ofDigitChars_replicate_zero] at hread
  rw [Nat.toList_repr, Nat.ofDigitChars_toDigits (by decide) (by decide)] at hread
  exact ⟨_, hread⟩

theorem Scaled.value_trimZeros (d : Scaled) : d.trimZeros.value = d.value := by
  unfold trimZeros
  dsimp only
  split
  · rfl
  · have hdvd := pow_dvd_of_trailing d.significand
    generalize (d.significand.repr.toList.reverse.takeWhile (· == '0')).length = zeros at *
    obtain ⟨rest, hrest⟩ := hdvd
    have hpow : (10 : ℚ) ^ (d.exponent + zeros) = 10 ^ zeros * 10 ^ d.exponent := by
      rw [zpow_add₀ (by norm_num), zpow_natCast, mul_comm]
    rw [value, value, Nat.pow_eq, hpow, hrest,
      Nat.mul_div_cancel_left _ (Nat.pow_pos (by decide))]
    push_cast
    ring

/-! ## Shortest digits -/

/-- The shortest digits of a double are those of a decimal in its basin. -/
theorem exists_holds_shortest {units : Nat} (hgrid : OnGrid units) (hunits : 0 < units) :
    ∃ d : Scaled, (basin units).Holds d.num d.den ∧ (shortest units).value = d.value := by
  obtain ⟨long, hlong⟩ := exists_shortestOfLength?_seventeen hgrid hunits
  unfold shortest
  split
  next found hfound =>
    obtain ⟨count, -, hcount⟩ := List.exists_of_findSome?_eq_some hfound
    exact ⟨found, holds_of_shortestOfLength? hcount, found.value_trimZeros⟩
  next hnone =>
    have hmissing := List.findSome?_eq_none_iff.mp hnone 16 (by decide)
    rw [hlong] at hmissing
    cases hmissing

/-- A double is read back from every decimal with the value of its shortest digits. -/
theorem ofDecimal_of_value (negative : Bool) {units : Nat} (hgrid : OnGrid units)
    (hunits : 0 < units) {d : Scaled} (hvalue : d.value = (shortest units).value) :
    ofDecimal negative d.significand d.exponent = .finite negative units := by
  obtain ⟨found, hfound, hsame⟩ := exists_holds_shortest hgrid hunits
  refine d.ofDecimal_of_holds negative hgrid hunits ?_
  exact hfound.of_cross found.den_pos d.den_pos (Scaled.cross_of_value (hsame.symm.trans hvalue.symm))

theorem shortest_significand_pos {units : Nat} (hgrid : OnGrid units) (hunits : 0 < units) :
    0 < (shortest units).significand := by
  refine Nat.pos_of_ne_zero fun hzero => ?_
  have hread := ofDecimal_of_value false hgrid hunits (rfl : (shortest units).value = _)
  rw [hzero, ofDecimal, if_pos rfl] at hread
  injection hread with _ hunits'
  exact Nat.ne_of_gt hunits hunits'.symm

end Decimal

end Montage.Number
