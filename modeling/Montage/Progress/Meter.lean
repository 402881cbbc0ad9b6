/-
  Montage.Progress.Meter

  How far a render has come, from the status lines that the engine prints.  The meter
  reads complete lines only and keeps no more than the end of an incomplete one.
-/
import Montage.Progress.Token

namespace Montage.Progress

open Montage.Number

/-- The highest progress of a render that is still running. -/
def maxRunning : Int := 99

/-- The progress of a render in percent: 0 for a timeline without duration, never
    below 0 or above 99. -/
def percent (elapsed duration : Scalar) : Except ArithmeticError Int :=
  if duration.leInt 0 then .ok 0
  else do
    let quotient ← (← Scalar.mul (.int 100) elapsed).div duration
    let rounded ← quotient.toNearestInt
    return max 0 (min maxRunning rounded)

/-- The most characters that are kept of an incomplete line. -/
def maxLine : Nat := 4096

/-- The state of a progress meter. -/
structure Meter where
  duration : Scalar
  progress : Option Int := none
  /-- The end of the incomplete last line. -/
  line : List Char := []

def isLineBreak (c : Char) : Bool :=
  c = '\r' || c = '\n'

/-- The last `count` items of a list. -/
def lastOf {α : Type} (count : Nat) (items : List α) : List α :=
  items.drop (items.length - count)

/-- What follows the last line break of a text. -/
def afterLastBreak (text : List Char) : List Char :=
  (text.reverse.takeWhile fun c => !isLineBreak c).reverse

/-- A text up to its last line break. -/
def completeLines (text : List Char) : List Char :=
  text.take (text.length - (afterLastBreak text).length)

theorem length_lastOf {α : Type} (count : Nat) (items : List α) :
    (lastOf count items).length = min count items.length := by
  simp only [lastOf, List.length_drop]
  omega

/-- Items that were dropped early would be dropped later as well. -/
theorem lastOf_lastOf_append {α : Type} (count : Nat) (first second : List α) :
    lastOf count (lastOf count first ++ second) = lastOf count (first ++ second) := by
  simp only [lastOf, List.length_append, List.length_drop, List.drop_append]
  rw [List.drop_drop]
  congr 1
  · congr 1
    omega
  · congr 1
    omega

theorem afterLastBreak_suffix (text : List Char) : afterLastBreak text <:+ text := by
  have h := List.takeWhile_prefix (fun c => !isLineBreak c) (l := text.reverse)
  simpa [afterLastBreak] using List.reverse_suffix.2 h

/-- The complete lines and what follows them are the whole text. -/
theorem completeLines_append_afterLastBreak (text : List Char) :
    completeLines text ++ afterLastBreak text = text :=
  List.suffix_iff_eq_append.1 (afterLastBreak_suffix text)

theorem isLineBreak_of_mem_afterLastBreak {text : List Char} {c : Char}
    (h : c ∈ afterLastBreak text) : isLineBreak c = false := by
  have hall := List.all_takeWhile (p := fun c => !isLineBreak c) (l := text.reverse)
  simpa using List.all_eq_true.1 hall c (List.mem_reverse.1 h)

namespace Meter

/-- Reads a piece of output.  Gives the new progress if it changed. -/
def feed (piece : List Char) (meter : Meter) : Except Fault (Option Int × Meter) := do
  let text := meter.line ++ piece
  let meter := { meter with line := lastOf maxLine (afterLastBreak text) }
  match ← elapsed? (completeLines text) with
  | none => return (none, meter)
  | some elapsed =>
    let progress ← (percent (.real elapsed) meter.duration).mapError Fault.arithmetic
    if meter.progress = some progress then return (none, meter)
    else return (some progress, { meter with progress := some progress })

end Meter

end Montage.Progress
