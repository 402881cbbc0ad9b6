/-
  Montage.Jobs.Row

  Export jobs as rows of a table.
-/
import Montage.Jobs.Cell

namespace Montage.Jobs

open Montage.Number

inductive Status where
  | queued
  | processing
  | completed
  | failed
  deriving DecidableEq, Repr

def Status.word : Status → String
  | .queued => "queued"
  | .processing => "processing"
  | .completed => "completed"
  | .failed => "failed"

/-- The identity of a job, by the number under which it was made. -/
structure JobId where
  number : Nat
  deriving DecidableEq, Repr

/-- A job id as text, in the form of a UUID of version 4. -/
def JobId.text (id : JobId) : String :=
  "00000000-0000-4000-8000-" ++ Decimal.padLeft 12 id.number.repr

structure Job where
  id : JobId
  userId : String
  projectId : String
  status : Status := .queued
  progress : Scalar := .int 0
  width : Scalar
  height : Scalar
  fps : Scalar
  duration : Binary64
  downloadUrl : Option String := none
  errorMessage : Option String := none
  /-- Whether a time of completion is recorded. -/
  completed : Bool := false
  /-- When the job was made, on a scale of its own. -/
  createdAt : Int
  deriving DecidableEq, Repr

/-- What a row is made from. -/
structure Draft where
  userId : Json
  projectId : Json
  width : Json
  height : Json
  fps : Json
  duration : Json

namespace Draft

/-- How many pictures a second has unless something else is said. -/
def defaultFps : Json := .int 30

/-- How long a video is unless something else is said. -/
def defaultDuration : Json := .num (.real .zero)

/-- A value, or the default where it is null. -/
def given (default : Json) : Json → Json
  | .null => default
  | value => value

/-- The row that a draft makes, its values in the form of their columns. -/
def row (id : JobId) (createdAt : Int) (draft : Draft) : Except Fault Job := do
  let userId ← Cell.text draft.userId
  let projectId ← Cell.text draft.projectId
  let width ← Cell.number draft.width
  let height ← Cell.number draft.height
  let fps ← Cell.number (given defaultFps draft.fps)
  let duration ← Cell.real (given defaultDuration draft.duration)
  match userId, projectId, width, height, fps, duration with
  | some userId, some projectId, some width, some height, some fps, some duration =>
    return { id, userId, projectId, width, height, fps, duration, createdAt }
  | _, _, _, _, _, _ => throw .badRow

end Draft

namespace Job

/-- The key of the job's timeline in input storage. -/
def inputKey (job : Job) : String :=
  job.userId ++ "/" ++ job.id.text ++ "/timeline.json"

/-- The key of the job's video in output storage. -/
def outputKey (job : Job) : String :=
  job.userId ++ "/" ++ job.id.text ++ "/export.mp4"

/-- A short description for logs. -/
def summary (job : Job) : String :=
  "<ExportJob " ++ job.id.text ++ " (" ++ job.status.word ++ ")>"

end Job

end Montage.Jobs
