/-
  Montage.Storage.Lifetime

  How long a signed url lasts.  The time is asked for in minutes, is kept in whole
  microseconds, and may not be longer than a calendar can count in days.
-/
import Montage.Fault
import Montage.Json.Display

namespace Montage.Storage

open Montage.Number

/-- How long a url lasts, in seconds, unless another time is asked for. -/
def defaultLifetime : Int := 3600

def microsecondsPerMinute : Nat := 60000000

def microsecondsPerDay : Nat := 86400000000

/-- The most days that a time may have. -/
def maxDays : Nat := 999999999

/-- Minutes in microseconds: the whole minutes exactly, and what is left of the last one
    rounded. -/
def microsecondsOf : Scalar → Except ArithmeticError Int
  | .int minutes => .ok (minutes * microsecondsPerMinute)
  | .real minutes => do
    let whole ← minutes.toWholeInt
    let rest ← (minutes.fraction.mul (.ofNat microsecondsPerMinute)).toNearestInt
    return whole * microsecondsPerMinute + rest

/-- What is wrong with a time of so many microseconds. -/
def lifetimeFault? (microseconds : Int) : Option Fault :=
  let days := microseconds / microsecondsPerDay
  if days < -2147483648 ∨ 2147483647 < days then
    some (.outOfRange "Python int too large to convert to C int")
  else if maxDays < days.natAbs then
    some (.outOfRange ("days=" ++ toString days ++ "; must have magnitude <= " ++ maxDays.repr))
  else none

/-- A number of minutes in whole seconds. -/
def lifetimeOfMinutes (minutes : Scalar) : Except Fault Int := do
  let microseconds ← (microsecondsOf minutes).mapError .arithmetic
  if let some fault := lifetimeFault? microseconds then throw fault
  ((Binary64.ofRatio? microseconds 1000000).bind Binary64.toWholeInt).mapError .arithmetic

/-- The seconds that are asked for by a value. -/
def lifetime : Json → Except Fault Int
  | .num minutes => lifetimeOfMinutes minutes
  | .bool flag => lifetimeOfMinutes (.int (if flag then 1 else 0))
  | value =>
    .error (.wrongType ("unsupported type for timedelta minutes component: " ++ value.typeName))

end Montage.Storage
