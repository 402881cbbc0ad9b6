/-
  Montage.Api.JobReport

  What the service tells about a job.  It is made from a row of the table, or read from a
  value that was given in the place of one.
-/
import Montage.Api.Id
import Montage.Jobs.Row
import Montage.Validation.Moment
import Montage.Validation.Scalars

namespace Montage.Api

open Montage.Jobs Montage.Number Montage.Validation

structure JobReport where
  id : String
  userId : String
  projectId : String
  status : Status
  width : Int
  height : Int
  fps : Int
  duration : Binary64
  progress : Int
  downloadUrl : Option String
  errorMessage : Option String
  /-- Whether a time of completion is known. -/
  completed : Bool
  deriving DecidableEq, Repr

namespace JobReport

/-- A number of a row, if it is whole. -/
def whole? : Scalar → Option Int
  | .int i => some i
  | .real x => x.toInt?

/-- The report of a row, unless its numbers have fractions. -/
def ofJob? (job : Job) : Option JobReport := do
  return {
    id := job.id.text
    userId := job.userId
    projectId := job.projectId
    status := job.status
    width := ← whole? job.width
    height := ← whole? job.height
    fps := ← whole? job.fps
    duration := job.duration
    progress := ← whole? job.progress
    downloadUrl := job.downloadUrl
    errorMessage := job.errorMessage
    completed := job.completed }

def statuses : List (String × Status) :=
  [Status.queued, .processing, .completed, .failed].map fun status => (status.word, status)

def found? {α : Type} : Checked α → Option α
  | .valid a => some a
  | .invalid _ => none

/-- The report that a value makes, if it has all that a report needs. -/
def ofJson? (value : Json) : Option JobReport := do
  let created ← value.get? "created_at"
  let completed ← value.get? "completed_at"
  let isKnown := !(completed matches .null)
  if !isMoment created || (isKnown && !isMoment completed) then none
  let read {α : Type} (name : String) (check : Json → Checked α) : Option α :=
    (value.get? name).bind fun value => found? (check value)
  return {
    id := ← (read "id" checkText).bind idText?
    userId := ← read "user_id" checkText
    projectId := ← read "project_id" checkText
    status := ← read "status" (checkWord statuses)
    width := ← read "width" checkInteger
    height := ← read "height" checkInteger
    fps := ← read "fps" checkInteger
    duration := ← read "duration" checkReal
    progress := ← read "progress" checkInteger
    downloadUrl := ← read "download_url" (checkOption checkText)
    errorMessage := ← read "error_message" (checkOption checkText)
    completed := isKnown }

/-- Whether a report can be sent: its texts have no halves of surrogate pairs. -/
def isEncodable (report : JobReport) : Bool :=
  ([report.userId, report.projectId] ++ report.downloadUrl.toList ++
    report.errorMessage.toList).all Json.isWholeText

end JobReport

end Montage.Api
