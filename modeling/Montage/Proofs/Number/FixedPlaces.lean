/-
  Montage.Proofs.Number.FixedPlaces

  Doubles with a fixed number of decimal places.  Read as a rational number, the text is
  the double to the nearest unit of its last place, and a larger double never has the text
  of a smaller number.
-/
import Mathlib.Algebra.Order.Field.Basic
import Mathlib.Tactic.FieldSimp
import Montage.Proofs.Json.Regular
import Montage.Proofs.Number.Monotone

namespace Montage.Number

/-! ## Exact values -/

/-- The rational number that a finite double is. -/
def Binary64.rat? : Binary64 → Option ℚ
  | .finite negative units => some ((signed negative units : ℚ) / unitsPerOne)
  | _ => none

/-- The rational number that a numeral with some digits after the point stands for. -/
def numeralValue? (places : Nat) (text : String) : Option ℚ :=
  let (negative, unsigned) := Json.takeMinus text.toList
  let whole := unsigned.takeWhile Json.isAsciiDigit
  match unsigned.dropWhile Json.isAsciiDigit with
  | '.' :: fraction =>
    if whole ≠ [] ∧ fraction.all Json.isAsciiDigit ∧ fraction.length = places then
      some ((Binary64.signed negative (Json.digitsValue (whole ++ fraction)) : ℚ) / 10 ^ places)
    else none
  | _ => none

/-! ## Texts -/

namespace Decimal

/-- A count of the last place is written as digits around a point. -/
theorem exists_digits_fixedText {places : Nat} (hplaces : 0 < places) (count : Nat) :
    ∃ whole fraction, (fixedText places count).toList = whole ++ '.' :: fraction ∧
      Json.AllDigits whole ∧ whole ≠ [] ∧ Json.AllDigits fraction ∧ fraction.length = places ∧
      Json.digitsValue (whole ++ fraction) = count := by
  unfold fixedText
  dsimp only
  generalize hpadded : (padLeft (places + 1) count.repr).toList = padded
  obtain ⟨hwhole, hne, hfraction, hlength, hvalue⟩ := Json.padLeft_cut hpadded.symm
  refine ⟨_, _, ?_, hwhole, hne, hfraction, hlength, ?_⟩
  · rw [if_neg (Nat.ne_of_gt hplaces)]
    simp only [String.toList_append, String.toList_ofList]
    rfl
  · rw [List.take_append_drop, hvalue]

/-- A finite double is read from its text as the number of units of the last place that it
was rounded to. -/
theorem numeralValue?_fixed {places : Nat} (hplaces : 0 < places) (negative : Bool)
    (units : Nat) :
    numeralValue? places (fixed places (.finite negative units)) =
      some ((Binary64.signed negative (fixedCount places units) : ℚ) / 10 ^ places) := by
  obtain ⟨whole, fraction, htext, hwhole, hsome, hfraction, hlength, hvalue⟩ :=
    exists_digits_fixedText hplaces (fixedCount places units)
  have hahead : Json.NoDigitAhead ('.' :: fraction) := by
    rintro c ⟨⟩
    rfl
  have hminus : Json.takeMinus (fixed places (.finite negative units)).toList =
      (negative, whole ++ '.' :: fraction) := by
    rw [fixed, String.toList_append, Json.toList_signText, htext]
    cases negative with
    | true => rfl
    | false =>
        -- the first character is a digit, and so no minus
        obtain ⟨c, rest, rfl⟩ := List.exists_cons_of_ne_nil hsome
        have hdigit := hwhole c List.mem_cons_self
        have hc : c ≠ '-' := by
          rintro rfl
          cases hdigit
        simp [Json.signChars, Json.takeMinus, hc]
  unfold numeralValue?
  rw [hminus]
  dsimp only
  rw [Json.takeWhile_digits hwhole hahead, Json.dropWhile_digits hwhole hahead]
  refine (if_pos ⟨hsome, List.all_eq_true.mpr hfraction, hlength⟩).trans ?_
  rw [hvalue]

/-! ## Rounding -/

theorem unitsPerOne_pos : 0 < Binary64.unitsPerOne := by decide +kernel

/-- A magnitude is at most half a unit of the last place away from what it is rounded to. -/
theorem fixedCount_near (places units : Nat) :
    |(fixedCount places units : ℚ) / 10 ^ places - (units : ℚ) / Binary64.unitsPerOne| ≤
      1 / (2 * 10 ^ places) := by
  obtain ⟨habove, hbelow⟩ :=
    roundDiv_near (units * Nat.pow 10 places) Binary64.unitsPerOne unitsPerOne_pos
  have hunit := unitsPerOne_pos
  rw [← fixedCount, Nat.pow_eq] at habove hbelow
  generalize fixedCount places units = count at habove hbelow ⊢
  generalize Binary64.unitsPerOne = unit at habove hbelow hunit ⊢
  have hunit' : (0 : ℚ) < unit := Nat.cast_pos.mpr hunit
  have hpower : (0 : ℚ) < 10 ^ places := by positivity
  have habove' : 2 * ((units : ℚ) * 10 ^ places) ≤ 2 * (unit * count) + unit := by
    exact_mod_cast habove
  have hbelow' : 2 * (unit * (count : ℚ)) ≤ 2 * (units * 10 ^ places) + unit := by
    exact_mod_cast hbelow
  have hcross : |(count : ℚ) * unit - units * 10 ^ places| ≤ unit / 2 := by
    rw [abs_le]
    constructor <;> linarith
  calc |(count : ℚ) / 10 ^ places - (units : ℚ) / unit|
      = |((count : ℚ) * unit - units * 10 ^ places) / (10 ^ places * unit)| := by
        congr 1
        field_simp
    _ = |(count : ℚ) * unit - units * 10 ^ places| / (10 ^ places * unit) := by
        rw [abs_div, abs_of_pos (mul_pos hpower hunit')]
    _ ≤ unit / 2 / (10 ^ places * unit) := by gcongr
    _ = 1 / (2 * 10 ^ places) := by field_simp

/-- A double is at most half a unit of the last place away from what it is rounded to. -/
theorem fixed_near (places : Nat) (negative : Bool) (units : Nat) :
    |(Binary64.signed negative (fixedCount places units) : ℚ) / 10 ^ places -
      (Binary64.signed negative units : ℚ) / Binary64.unitsPerOne| ≤ 1 / (2 * 10 ^ places) := by
  have hnear := fixedCount_near places units
  cases negative with
  | false => exact hnear
  | true =>
      rw [← abs_neg] at hnear
      convert hnear using 2
      simp only [Binary64.signed, if_true]
      push_cast
      ring

theorem fixedCount_zero (places : Nat) : fixedCount places 0 = 0 := by
  have hunit := unitsPerOne_pos
  rw [fixedCount, Nat.zero_mul]
  generalize Binary64.unitsPerOne = unit at hunit ⊢
  simpa using roundDiv_mul_right 0 unit hunit

/-- What is not smaller is not rounded to something smaller. -/
theorem signed_fixedCount_mono (places : Nat) {negative other : Bool} {units more : Nat}
    (h : Binary64.signed negative units ≤ Binary64.signed other more) :
    Binary64.signed negative (fixedCount places units) ≤
      Binary64.signed other (fixedCount places more) := by
  have hmono : ∀ {few many : Nat}, few ≤ many → fixedCount places few ≤ fixedCount places many :=
    fun hle => roundDiv_mono unitsPerOne_pos (Nat.mul_le_mul_right _ hle)
  cases negative with
  | false =>
      cases other with
      | false => exact Int.ofNat_le.mpr (hmono (Int.ofNat_le.mp h))
      | true =>
          -- both are zero
          simp only [Binary64.signed, if_true, Bool.false_eq_true, if_false] at h ⊢
          obtain ⟨rfl, rfl⟩ : units = 0 ∧ more = 0 := by omega
          rw [fixedCount_zero]
          decide
  | true =>
      cases other with
      | false =>
          simp only [Binary64.signed, if_true, Bool.false_eq_true, if_false]
          omega
      | true =>
          simp only [Binary64.signed, if_true] at h ⊢
          have hle : fixedCount places more ≤ fixedCount places units := hmono (by omega)
          omega

end Decimal

end Montage.Number
