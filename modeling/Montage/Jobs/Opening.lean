/-
  Montage.Jobs.Opening

  Opening the table of jobs while the database may still be starting: a fixed number of
  attempts, with pauses between them that double.
-/

namespace Montage.Jobs

/-- How often opening the table is tried. -/
def attemptLimit : Nat := 5

/-- The seconds before the second attempt. -/
def firstPause : Nat := 2

/-- The seconds that pass in the pauses after a number of failed attempts. -/
def pauseAfter (failures : Nat) : Nat :=
  firstPause * (Nat.pow 2 failures - 1)

/-- Opening a table whose first attempts fail: the seconds until it is open, or until
    the last attempt has failed. -/
def opening (failures : Nat) : Except Nat Nat :=
  if failures < attemptLimit then .ok (pauseAfter failures)
  else .error (pauseAfter (attemptLimit - 1))

end Montage.Jobs
