/-
  Montage.Simulation.Agenda

  What is under way for one task: a call that will be answered, assets on their way, or
  a running engine.  The agenda follows from the phase that the task has come to.
-/
import Montage.Simulation.Scene
import Montage.Worker.Task

namespace Montage.Simulation

open Montage.Asset Montage.Engine Montage.Number Montage.Web Montage.Worker

inductive Agenda where
  | nothing
  | call (due : Binary64) (event : TaskEvent)
  /-- Assets whose fetching began at `start`; those in `coming` are not there yet. -/
  | transfers (start : Binary64) (coming all : List Transfer)
  | process (source : Source) (deadline : Deadline)

/-- How long it takes to read a stored timeline, in seconds. -/
def readTime : Binary64 :=
  .ofDecimal false 1 (-2)

/-- The answer to the read of a timeline, and when it is there. -/
def readCall (now : Binary64) (reply : Reply) : Agenda :=
  match reply with
  | .instead _ => .call now (.read reply)
  | _ => .call (now.add readTime) (.read reply)

namespace Agenda

/-- The agenda of a task that has moved at `now`; `before` is the one it had. -/
def plan (timeout : Binary64) (scene : Scene) (replies : Replies) (now : Binary64) (task : Task)
    (before : Agenda) : Agenda :=
  match task.phase, before with
  | .created, _ => .call now .begin
  | .reading, _ => readCall now (replies.reply .readText)
  | .fetching _ _, .transfers start coming all => .transfers start coming.tail all
  | .fetching document _, _ =>
    let all := (wanted document).map (transfer scene.servers true)
    .transfers now (inOrder all) all
  | .starting _, _ => .call now (.launched none)
  | .rendering run, .process source deadline => .process (source.plan now run.stage) deadline
  | .rendering _, _ =>
    .process (.start now (scene.script task.job.id)) (.start now timeout)
  | .uploading, _ => .call now (.uploaded (replies.reply .upload))
  | .signing, _ => .call now (.signed (replies.reply .sign))
  | .completing _, _ => .call now (.completionWritten (replies.reply .markCompleted))
  | .failing _ _, _ => .call now (.failureWritten (replies.reply .markFailed))
  | .ended _, _ => .nothing

/-- The event of an engine run that comes next, and when. -/
def processNext? (replies : Replies) (now : Binary64) (run : Run) (source : Source)
    (deadline : Deadline) : Option (Binary64 × TaskEvent) :=
  match run.stage with
  | .reporting _ => some (now, .progressWritten (replies.reply .setProgress))
  | stage => (source.next? (some deadline) stage).map fun (time, event) => (time, .engine event)

/-- The event that comes next for a task, and when. -/
def next? (replies : Replies) (now : Binary64) (task : Task) :
    Agenda → Option (Binary64 × TaskEvent)
  | .nothing => none
  | .call due event => some (due, event)
  | .transfers start coming _ =>
    coming.head?.map fun transfer =>
      (start.add transfer.finish, .asset transfer.item.mediaId transfer.received)
  | .process source deadline =>
    match task.phase with
    | .rendering run => processNext? replies now run source deadline
    | _ => none

/-- The urls that were requested by `now`. -/
def requested (now : Binary64) : Agenda → List String
  | .transfers start _ all => requestedBy start now all
  | _ => []

/-- Whether assets are on their way. -/
def isFetching : Agenda → Bool
  | .transfers _ _ _ => true
  | _ => false

end Agenda

end Montage.Simulation
