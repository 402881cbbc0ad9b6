/-
  Montage.Proofs.Number.Monotone

  Rounding keeps the order.  A larger quotient is never rounded to a smaller number, so a
  sum of doubles is never below a double that the exact sum is not below; this holds from
  the denormal numbers to the largest ones.  Products, quotients and nearest integers round a
  magnitude and keep its sign, so with a factor or a divisor that is not negative, a larger
  number never gives a smaller result.
-/
import Mathlib.Order.Monotone.Basic
import Montage.Proofs.Timeline.Spans

namespace Montage.Number

/-! ## Rounded quotients -/

theorem roundDiv_mono {num more den : Nat} (hden : 0 < den) (h : num ≤ more) :
    roundDiv num den ≤ roundDiv more den := by
  by_contra hless
  have hnear := (roundDiv_near num den hden).2
  have hnear' := (roundDiv_near more den hden).1
  have hstep := Nat.mul_le_mul_left den (Nat.succ_le_of_lt (Nat.lt_of_not_le hless))
  rw [Nat.mul_succ] at hstep
  -- the two lie next to each other, and both quotients are the half between them
  obtain rfl : num = more := by omega
  exact hless (Nat.le_refl _)

theorem excessBits_mono {precision whole more : Nat} (hprecision : 0 < precision)
    (h : whole ≤ more) : excessBits precision whole ≤ excessBits precision more := by
  by_contra hless
  have hmore := Nat.lt_of_not_le hless
  have hlarge := le_of_excessBits hprecision (Nat.zero_lt_of_lt hmore)
  have hsmall := lt_of_excessBits precision more
  have hpower : 2 ^ (precision + excessBits precision more) ≤
      2 ^ (precision - 1 + excessBits precision whole) :=
    Nat.pow_le_pow_right (by decide) (by omega)
  omega

theorem roundToPrecision_mono {precision num more den : Nat} (hprecision : 0 < precision)
    (hden : 0 < den) (h : num ≤ more) :
    roundToPrecision precision num den ≤ roundToPrecision precision more den := by
  have hexcess := excessBits_mono hprecision (Nat.div_le_div_right (c := den) h)
  rcases Nat.lt_or_eq_of_le hexcess with hless | hsame
  · -- a power of two lies between the two
    calc roundToPrecision precision num den
        ≤ 2 ^ (precision + excessBits precision (num / den)) := roundToPrecision_le precision num hden
      _ ≤ 2 ^ (precision - 1 + excessBits precision (more / den)) :=
          Nat.pow_le_pow_right (by decide) (by omega)
      _ ≤ roundToPrecision precision more den :=
          le_roundToPrecision hprecision hden (Nat.zero_lt_of_lt hless)
  · rw [roundToPrecision_eq hsame, roundToPrecision_eq rfl]
    exact Nat.mul_le_mul_right _
      (roundDiv_mono (Nat.mul_pos hden (Nat.two_pow_pos _)) h)

/-! ## Doubles -/

namespace Binary64

theorem exists_finite_of_isFinite {x : Binary64} (h : x.isFinite = true) :
    ∃ negative units, x = .finite negative units := by
  cases x with
  | finite negative units => exact ⟨negative, units, rfl⟩
  | infinite negative => cases h
  | nan => cases h

/-- Only finite numbers have a finite sum. -/
theorem isFinite_of_add {x y : Binary64} (h : (x.add y).isFinite = true) :
    x.isFinite = true ∧ y.isFinite = true := by
  cases x with
  | nan => cases h
  | infinite negative =>
      cases y with
      | nan => cases h
      | infinite other =>
          rw [add] at h
          split at h <;> cases h
      | finite other more => cases h
  | finite negative units =>
      cases y with
      | nan => cases h
      | infinite other => cases h
      | finite other more => exact ⟨rfl, rfl⟩

theorem lt_finite_eq_false {negative other : Bool} {units more : Nat} :
    (finite negative units).lt (.finite other more) = false ↔
      signed other more ≤ signed negative units := by
  simp [lt]

theorem lt_zero_eq_false {x : Binary64} (h : zero.le x = true) : x.lt zero = false := by
  cases x with
  | finite negative units => exact lt_finite_eq_false.mpr (zero_le_finite.mp h)
  | infinite negative =>
      cases negative with
      | true => cases h
      | false => rfl
  | nan => cases h

/-- A number that is not below zero is its magnitude. -/
theorem signed_eq_of_nonneg {negative : Bool} {units : Nat} (h : 0 ≤ signed negative units) :
    signed negative units = units := by
  cases negative with
  | false => rfl
  | true =>
      simp only [signed, if_true] at h ⊢
      omega

/-- Nothing that is not below zero ends before it starts, however long it lasts. -/
theorem add_lt_eq_false {x y : Binary64} (hdouble : x.IsDouble) (hx : zero.le x = true)
    (hy : zero.lt y = true) (hfinite : (x.add y).isFinite = true) :
    (x.add y).lt x = false := by
  obtain ⟨hxfinite, hyfinite⟩ := isFinite_of_add hfinite
  obtain ⟨negative, units, rfl⟩ := exists_finite_of_isFinite hxfinite
  obtain ⟨other, more, rfl⟩ := exists_finite_of_isFinite hyfinite
  have hstart := signed_eq_of_nonneg (zero_le_finite.mp hx)
  have hlast := zero_lt_finite.mp hy
  have hlength := signed_eq_of_nonneg (Int.le_of_lt hlast)
  have hsum : (finite negative units).add (.finite other more) =
      ofQuotient false (units + more) 1 := by
    rw [hlength] at hlast
    rw [add, hstart, hlength, if_neg (by omega), decide_eq_false (by omega)]
    rfl
  -- the exact sum is no less than the double, which rounding leaves as it is
  have hround : roundToPrecision precision units 1 ≤ roundToPrecision precision (units + more) 1 :=
    roundToPrecision_mono (by decide) Nat.one_pos (Nat.le_add_right units more)
  rw [(hdouble negative units rfl).1] at hround
  rw [hsum, ofQuotient, ofUnits] at hfinite ⊢
  split at hfinite
  next hrange =>
    rw [if_pos hrange, lt_finite_eq_false, hstart]
    exact Int.ofNat_le.mpr hround
  next => cases hfinite

end Binary64

/-! ## Functions that keep the order -/

theorem monotone_roundDiv {den : Nat} (hden : 0 < den) : Monotone (roundDiv · den) :=
  fun _ _ h => roundDiv_mono hden h

theorem roundDiv_zero {den : Nat} (hden : 0 < den) : roundDiv 0 den = 0 := by
  have hnear := roundDiv_mul_right 0 den hden
  rwa [Nat.zero_mul] at hnear

theorem monotone_roundToPrecision {precision den : Nat} (hprecision : 0 < precision)
    (hden : 0 < den) : Monotone (roundToPrecision precision · den) :=
  fun _ _ h => roundToPrecision_mono hprecision hden h

theorem roundToPrecision_zero {precision den : Nat} (hden : 0 < den) :
    roundToPrecision precision 0 den = 0 := by
  have hfit : 0 < den * Nat.pow 2 (excessBits precision (0 / den)) :=
    Nat.mul_pos hden (Nat.two_pow_pos _)
  show roundDiv 0 (den * Nat.pow 2 (excessBits precision (0 / den))) * _ = 0
  rw [roundDiv_zero hfit, Nat.zero_mul]

namespace Binary64

variable {negative other : Bool} {units more den : Nat} {x y : Binary64}

/-! ## Magnitudes with a sign -/

theorem signed_false (units : Nat) : signed false units = units := rfl

theorem signed_true (units : Nat) : signed true units = -(units : Int) := rfl

/-- What keeps the order of magnitudes keeps the order of numbers. -/
theorem signed_map_le {f : Nat → Nat} (hf : Monotone f) (hzero : f 0 = 0)
    (h : signed negative units ≤ signed other more) :
    signed negative (f units) ≤ signed other (f more) := by
  cases negative with
  | false =>
      cases other with
      | false => exact Int.ofNat_le.mpr (hf (Int.ofNat_le.mp h))
      | true =>
          -- both are zero
          rw [signed_false, signed_true] at h
          obtain ⟨rfl, rfl⟩ : units = 0 ∧ more = 0 := by omega
          rw [hzero, signed_false, signed_true]
          decide
  | true =>
      cases other with
      | false =>
          rw [signed_true, signed_false]
          omega
      | true =>
          rw [signed_true, signed_true] at h ⊢
          have hless := hf (show more ≤ units by omega)
          omega

theorem finite_le_finite :
    (finite negative units).le (.finite other more) = true ↔
      signed negative units ≤ signed other more := by
  simp only [le, lt, eq, Bool.or_eq_true, decide_eq_true_eq]
  omega

theorem ofQuotient_of_isFinite (h : (ofQuotient negative units den).isFinite = true) :
    ofQuotient negative units den = .finite negative (roundToPrecision precision units den) := by
  rw [ofQuotient, ofUnits] at h ⊢
  split at h
  next hrange => rw [if_pos hrange]
  next => cases h

theorem ofQuotient_le (hden : 0 < den) (h : signed negative units ≤ signed other more)
    (hx : (ofQuotient negative units den).isFinite = true)
    (hy : (ofQuotient other more den).isFinite = true) :
    (ofQuotient negative units den).le (ofQuotient other more den) = true := by
  have hmono := @monotone_roundToPrecision precision den (by decide) hden
  have hround := signed_map_le hmono (roundToPrecision_zero hden) h
  rw [ofQuotient_of_isFinite hx, ofQuotient_of_isFinite hy, finite_le_finite]
  exact hround

/-! ## Products and quotients -/

theorem isFinite_of_mul (h : (x.mul y).isFinite = true) :
    x.isFinite = true ∧ y.isFinite = true := by
  cases x with
  | nan => cases h
  | infinite negative =>
      cases y with
      | nan => cases h
      | infinite other => cases h
      | finite other more =>
          rw [mul] at h
          split at h <;> cases h
  | finite negative units =>
      cases y with
      | nan => cases h
      | infinite other =>
          rw [mul] at h
          split at h <;> cases h
      | finite other more => exact ⟨rfl, rfl⟩

theorem isFinite_of_div (h : (x.div y).isFinite = true) : x.isFinite = true := by
  cases x with
  | nan => cases h
  | infinite negative => cases y <;> cases h
  | finite negative units => rfl

/-- A factor that is not negative keeps the order. -/
theorem mul_le {factor : Binary64} (hfactor : factor.isNegative = false) (h : x.le y = true)
    (hx : (factor.mul x).isFinite = true) (hy : (factor.mul y).isFinite = true) :
    (factor.mul x).le (factor.mul y) = true := by
  obtain ⟨hfinite, hxfinite⟩ := isFinite_of_mul hx
  obtain ⟨-, hyfinite⟩ := isFinite_of_mul hy
  obtain ⟨sign, scale, rfl⟩ := exists_finite_of_isFinite hfinite
  obtain ⟨negative, units, rfl⟩ := exists_finite_of_isFinite hxfinite
  obtain ⟨other, more, rfl⟩ := exists_finite_of_isFinite hyfinite
  obtain rfl : sign = false := hfactor
  have hmul : ∀ negative units, (finite false scale).mul (.finite negative units) =
      ofQuotient negative (scale * units) unitsPerOne := by
    intro negative units
    rw [mul, Bool.false_bne]
  rw [hmul] at hx hy ⊢
  rw [hmul]
  have hscale : Monotone (scale * ·) := fun _ _ hle => Nat.mul_le_mul_left scale hle
  have hproduct := signed_map_le hscale (Nat.mul_zero scale) (finite_le_finite.mp h)
  exact ofQuotient_le (by decide +kernel) hproduct hx hy

/-- A divisor that is not negative keeps the order. -/
theorem div_le {divisor : Binary64} (hdivisor : divisor.isNegative = false) (h : x.le y = true)
    (hx : (x.div divisor).isFinite = true) (hy : (y.div divisor).isFinite = true) :
    (x.div divisor).le (y.div divisor) = true := by
  obtain ⟨negative, units, rfl⟩ := exists_finite_of_isFinite (isFinite_of_div hx)
  obtain ⟨other, more, rfl⟩ := exists_finite_of_isFinite (isFinite_of_div hy)
  cases divisor with
  | nan => cases hx
  | infinite sign =>
      -- both quotients are zero
      rw [div, div, finite_le_finite]
      cases negative != sign <;> cases other != sign <;> decide
  | finite sign scale =>
      obtain rfl : sign = false := hdivisor
      rcases Nat.eq_zero_or_pos scale with rfl | hscale
      · -- a quotient by zero is not finite
        rw [div, if_pos rfl] at hx
        split at hx <;> cases hx
      · have hdiv : ∀ negative units, (finite negative units).div (.finite false scale) =
            ofQuotient negative (units * unitsPerOne) scale := by
          intro negative units
          rw [div, if_neg (Nat.ne_of_gt hscale), Bool.bne_false]
        rw [hdiv] at hx hy ⊢
        rw [hdiv]
        have hunits : Monotone (· * unitsPerOne) := fun _ _ hle => Nat.mul_le_mul_right _ hle
        have hquotient := signed_map_le hunits (Nat.zero_mul _) (finite_le_finite.mp h)
        exact ofQuotient_le hscale hquotient hx hy

/-! ## Integers -/

theorem toNearestInt_finite (negative : Bool) (units : Nat) :
    (finite negative units).toNearestInt = .ok (signed negative (roundDiv units unitsPerOne)) :=
  rfl

theorem toNearestInt_le {i j : Int} (h : x.le y = true) (hx : x.toNearestInt = .ok i)
    (hy : y.toNearestInt = .ok j) : i ≤ j := by
  cases x with
  | nan => cases hx
  | infinite negative => cases hx
  | finite negative units =>
      cases y with
      | nan => cases hy
      | infinite other => cases hy
      | finite other more =>
          have hunit : 0 < unitsPerOne := by decide +kernel
          have hround := signed_map_le (monotone_roundDiv hunit) (roundDiv_zero hunit)
            (finite_le_finite.mp h)
          rw [toNearestInt_finite, Except.ok.injEq] at hx hy
          rwa [hx, hy] at hround

theorem signed_natAbs_mul_le {i j : Int} (h : i ≤ j) (scale : Nat) :
    signed (decide (i < 0)) (i.natAbs * scale) ≤ signed (decide (j < 0)) (j.natAbs * scale) := by
  have hwhole : ∀ k : Int, signed (decide (k < 0)) k.natAbs = k := Json.signed_natAbs
  have hscale : Monotone (· * scale) := fun _ _ hle => Nat.mul_le_mul_right _ hle
  refine signed_map_le hscale (Nat.zero_mul scale) ?_
  rwa [hwhole, hwhole]

theorem ofQuotient_ne_nan (negative : Bool) (num den : Nat) :
    ofQuotient negative num den ≠ .nan := by
  unfold ofQuotient ofUnits
  split <;> nofun

theorem isNegative_ofNat (n : Nat) : (ofNat n).isNegative = false := by
  unfold ofNat ofQuotient ofUnits
  split <;> rfl

theorem ofInt_eq (i : Int) :
    ofInt i = ofQuotient (decide (i < 0)) (i.natAbs * unitsPerOne) 1 := rfl

theorem ofInt?_eq_ok {i : Int} (h : ofInt? i = .ok x) : x = ofInt i ∧ x.isFinite = true := by
  -- opened as a function, so that the conversion is not computed
  generalize hopened : Binary64.ofInt? = opened at h
  delta Binary64.ofInt? at hopened
  rw [← hopened] at h
  dsimp only at h
  have hnan : ofInt i ≠ .nan := ofQuotient_ne_nan _ _ _
  cases hi : ofInt i with
  | finite negative units =>
      rw [hi] at h
      exact ⟨(Except.ok.inj h).symm, Except.ok.inj h ▸ rfl⟩
  | infinite negative =>
      rw [hi] at h
      cases h
  | nan => exact absurd hi hnan

/-- Integers keep their order as doubles. -/
theorem ofInt?_le {i j : Int} (h : i ≤ j) (hx : ofInt? i = .ok x) (hy : ofInt? j = .ok y) :
    x.le y = true := by
  obtain ⟨hxvalue, hxfinite⟩ := ofInt?_eq_ok hx
  obtain ⟨hyvalue, hyfinite⟩ := ofInt?_eq_ok hy
  have hunits := signed_natAbs_mul_le h unitsPerOne
  rw [hxvalue, ofInt_eq] at hxfinite ⊢
  rw [hyvalue, ofInt_eq] at hyfinite ⊢
  exact ofQuotient_le Nat.one_pos hunits hxfinite hyfinite

/-- A quotient by a positive integer has the sign of the other integer. -/
theorem ofRatio?_eq_ok {i divisor : Int} (hdivisor : 0 < divisor) (h : ofRatio? i divisor = .ok x) :
    x = ofQuotient (decide (i < 0)) (i.natAbs * unitsPerOne) divisor.natAbs ∧
      x.isFinite = true := by
  generalize hopened : Binary64.ofRatio? = opened at h
  delta Binary64.ofRatio? at hopened
  rw [← hopened] at h
  dsimp only at h
  rw [decide_eq_false (Int.not_lt.mpr (Int.le_of_lt hdivisor)), Bool.bne_false] at h
  have hfinite := @ofQuotient_of_isFinite (decide (i < 0)) (i.natAbs * unitsPerOne) divisor.natAbs
  have hnan := ofQuotient_ne_nan (decide (i < 0)) (i.natAbs * unitsPerOne) divisor.natAbs
  generalize ofQuotient (decide (i < 0)) (i.natAbs * unitsPerOne) divisor.natAbs = rounded
    at h hfinite hnan ⊢
  cases rounded with
  | finite negative units =>
      obtain ⟨rfl, -⟩ := Binary64.finite.inj (hfinite rfl)
      have hsign : (decide (i < 0) && i != 0) = decide (i < 0) := by
        by_cases hneg : i < 0
        · simp [hneg, Int.ne_of_lt hneg]
        · simp [hneg]
      dsimp only at h
      rw [hsign] at h
      exact ⟨(Except.ok.inj h).symm, Except.ok.inj h ▸ rfl⟩
  | infinite negative => cases h
  | nan => exact absurd rfl hnan

/-- Quotients by a positive integer keep the order. -/
theorem ofRatio?_le {i j divisor : Int} (hdivisor : 0 < divisor) (h : i ≤ j)
    (hx : ofRatio? i divisor = .ok x) (hy : ofRatio? j divisor = .ok y) : x.le y = true := by
  obtain ⟨hxvalue, hxfinite⟩ := ofRatio?_eq_ok hdivisor hx
  obtain ⟨hyvalue, hyfinite⟩ := ofRatio?_eq_ok hdivisor hy
  have hunits := signed_natAbs_mul_le h unitsPerOne
  have hmagnitude : 0 < divisor.natAbs := Int.natAbs_pos.mpr (Int.ne_of_gt hdivisor)
  rw [hxvalue] at hxfinite ⊢
  rw [hyvalue] at hyfinite ⊢
  exact ofQuotient_le hmagnitude hunits hxfinite hyfinite

end Binary64

/-! ## Numbers of one kind -/

/-- Whether two numbers are of one kind, and the second one is not below the first. -/
def Scalar.IsNotAfter : Scalar → Scalar → Prop
  | .int i, .int j => i ≤ j
  | .real x, .real y => x.le y = true
  | _, _ => False

/-- What is above zero has a double without a sign. -/
theorem Scalar.isNegative_of_toReal {x : Scalar} {real : Binary64} (hpositive : x.leInt 0 = false)
    (h : x.toReal = .ok real) : real.isNegative = false := by
  cases x with
  | int i =>
      have hi : decide (i < 0) = false := by
        have hbelow : ¬ i ≤ 0 := of_decide_eq_false hpositive
        exact decide_eq_false (by omega)
      rw [toReal] at h
      obtain ⟨hvalue, hfinite⟩ := Binary64.ofInt?_eq_ok h
      rw [hvalue, Binary64.ofInt_eq, hi] at hfinite ⊢
      rw [Binary64.ofQuotient_of_isFinite hfinite]
      rfl
  | real x =>
      obtain rfl := Except.ok.inj h
      cases x with
      | nan => rfl
      | infinite negative => exact hpositive
      | finite negative units =>
          have hunits := of_decide_eq_false hpositive
          cases negative with
          | false => rfl
          | true =>
              rw [if_pos rfl, Int.zero_mul] at hunits
              omega

theorem Scalar.div_int_real (i : Int) (real : Binary64) :
    Scalar.div (.int i) (.real real) = (Binary64.ofInt? i).map fun x => x.div real := by
  rw [Scalar.div]
  · rw [Scalar.toReal, Scalar.toReal]
    cases Binary64.ofInt? i <;> rfl
  · nofun

/-- Quotients of integers by what is above zero keep the order. -/
theorem Scalar.div_int_le {i j : Int} {divisor : Scalar} {x y : Binary64}
    (hpositive : divisor.leInt 0 = false) (h : i ≤ j) (hx : Scalar.div (.int i) divisor = .ok x)
    (hy : Scalar.div (.int j) divisor = .ok y) (hxfinite : x.isFinite = true)
    (hyfinite : y.isFinite = true) : x.le y = true := by
  cases divisor with
  | int n =>
      have hn : 0 < n := by
        have hbelow : ¬ n ≤ 0 := of_decide_eq_false hpositive
        omega
      exact Binary64.ofRatio?_le hn h hx hy
  | real real =>
      rw [div_int_real] at hx hy
      obtain ⟨first, hi, rfl⟩ := exists_of_map_eq_ok hx
      obtain ⟨second, hj, rfl⟩ := exists_of_map_eq_ok hy
      exact Binary64.div_le (isNegative_of_toReal hpositive rfl) (Binary64.ofInt?_le h hi hj)
        hxfinite hyfinite

end Montage.Number
