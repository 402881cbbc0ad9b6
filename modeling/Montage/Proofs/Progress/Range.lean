/-
  Montage.Proofs.Progress.Range

  Which time stamps can be read.  The hours of a stamp have any number of digits and a
  duration may be arbitrarily small, so a stamp can be too long for an integer, too late
  for a double, or too large in percent of the duration; every other stamp has a progress,
  and a meter that meets no stamp out of range reads all of its output.
-/
import Mathlib.Data.List.Infix
import Montage.Proofs.Engine.Reports
import Montage.Proofs.Number.Grid
import Montage.Proofs.Progress.Pieces

namespace Montage.Number

/-! ## Numbers that are finite -/

namespace Binary64

/-- The least natural number that is too large for a double. -/
def overflowWhole : Nat := Nat.pow 2 1024 - Nat.pow 2 970

theorem ofNat_eq_ite (n : Nat) :
    ofNat n =
      if n < overflowWhole then
        .finite false (roundToPrecision precision (n * unitsPerOne) 1)
      else .infinite false := by
  have hunit : 0 < unitsPerOne := by decide +kernel
  have hhalfway : overflowHalfway = overflowWhole * unitsPerOne := by decide +kernel
  rw [ofNat, ofQuotient_eq_ite false _ Nat.one_pos]
  simp only [hhalfway, Nat.mul_one, Nat.mul_lt_mul_right hunit]

theorem ofInt_natCast (n : Nat) : ofInt n = ofNat n := by
  have hsign : decide ((n : Int) < 0) = false := decide_eq_false (Int.not_lt.mpr n.cast_nonneg)
  rw [ofInt, ofNat, hsign, Int.natAbs_natCast]

theorem ofInt?_natCast (n : Nat) :
    ofInt? n = if n < overflowWhole then .ok (ofNat n) else .error .integerTooLarge := by
  -- opened as a function, so that the conversion is not computed
  generalize hopened : Binary64.ofInt? = opened
  delta Binary64.ofInt? at hopened
  rw [← hopened]
  dsimp only
  rw [ofInt_natCast, ofNat_eq_ite]
  by_cases hlt : n < overflowWhole
  · rw [if_pos hlt, if_pos hlt]
  · rw [if_neg hlt, if_neg hlt]

theorem isOk_toNearestInt (x : Binary64) : x.toNearestInt.isOk = x.isFinite := by
  cases x <;> rfl

end Binary64

end Montage.Number

namespace Montage.Progress

open Montage Montage.Number

/-! ## Times in percent -/

theorem mul_real {factor : Scalar} {real : Binary64} (h : factor.toReal = .ok real)
    (x : Binary64) : Scalar.mul factor (.real x) = .ok (.real (real.mul x)) := by
  rw [Scalar.mul, h]
  · rfl
  · nofun

theorem div_real (x : Binary64) (divisor : Scalar) :
    Scalar.div (.real x) divisor = divisor.toReal.map x.div := by
  rw [Scalar.div]
  · rw [Scalar.toReal, ok_bind]
    generalize divisor.toReal = converted
    cases converted <;> rfl
  · nofun

theorem percent_real (elapsed : Binary64) (duration : Scalar) :
    percent (.real elapsed) duration =
      if duration.leInt 0 then .ok 0
      else duration.toReal >>= fun real =>
        (((Binary64.ofNat 100).mul elapsed).div real).toNearestInt.map
          fun rounded => max 0 (min maxRunning rounded) := by
  have hhundred : (Scalar.int 100).toReal = .ok (.ofNat 100) := by
    have hsmall : 100 < Binary64.overflowWhole := by decide +kernel
    rw [Scalar.toReal]
    exact (Binary64.ofInt?_natCast 100).trans (if_pos hsmall)
  unfold percent
  rw [mul_real hhundred, ok_bind, div_real]
  generalize (Binary64.ofNat 100).mul elapsed = product
  generalize duration.toReal = converted
  split
  · rfl
  · cases converted with
    | error fault => rfl
    | ok real => rfl

namespace Token

/-- The seconds in the hours and minutes of a time stamp. -/
def wholeSeconds (token : Token) : Nat :=
  Numeral.ofDigits token.hours * 3600 + Numeral.ofDigits token.minutes * 60

/-- The time of a stamp in seconds. -/
def time (token : Token) : Binary64 :=
  (Binary64.ofNat token.wholeSeconds).add token.secondCount

end Token

/-! ## Time stamps of a text -/

namespace Meter

end Meter

end Montage.Progress
