/-
  Montage.Simulation.Scene

  What surrounds a worker in a simulation: servers that answer from a table, processes
  that follow scripts, and calls that can be made to fail.
-/
import Montage.Engine.Process
import Montage.Web.Fetching
import Montage.Worker.World

namespace Montage.Simulation

open Montage.Jobs Montage.Worker

/-- The outside calls whose replies can be set. -/
inductive OutsideCall where
  | fetchOldest
  | claim
  | setProgress
  | markCompleted
  | markFailed
  | create
  | lookUp
  | readText
  | writeText
  | upload
  | sign
  deriving DecidableEq, Repr

/-- The replies that were set; every other call is genuine. -/
structure Replies where
  replies : List (OutsideCall × Reply) := []

namespace Replies

/-- The reply to a call. -/
def reply (call : OutsideCall) (replies : Replies) : Reply :=
  (replies.replies.lookup call).getD .genuine

/-- Sets the reply of a call. -/
def set (call : OutsideCall) (reply : Reply) (replies : Replies) : Replies :=
  ⟨(call, reply) :: replies.replies.filter fun (other, _) => other ≠ call⟩

end Replies

/-- The scripted part of the outside world. -/
structure Scene where
  servers : Web.Table := []
  /-- What the engine does for some of the jobs, by job number. -/
  scripts : List (Nat × Engine.Script) := []
  /-- What it does for all others. -/
  otherScript : Engine.Script := { output := some "mp4" }

/-- What the engine does for a job. -/
def Scene.script (id : JobId) (scene : Scene) : Engine.Script :=
  (scene.scripts.lookup id.number).getD scene.otherScript

end Montage.Simulation
