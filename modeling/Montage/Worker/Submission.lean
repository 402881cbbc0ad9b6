/-
  Montage.Worker.Submission

  Submitting a timeline: the document is written to input storage first, then the job
  is added to the table, so that a queued job always has its timeline.
-/
import Montage.Api.ExportRequest
import Montage.Text.Lowercase
import Montage.Timeline.Schedule
import Montage.Worker.World

namespace Montage.Worker

open Montage.Api Montage.Jobs Montage.Storage Montage.Timeline

/-! ## The gate -/

/-- Whether a url is a handle that only a browser can resolve. -/
def isTransientUrl (url : String) : Bool :=
  "blob:".toList.isPrefixOf (Text.lower url).toList

/-- The first medium that still has a transient url. -/
def transientMedium? (document : Document) : Option String :=
  (List.find? (fun (item : String × MediaAsset) => (item.2.url.map isTransientUrl).getD false)
    document.mediaItems).map Prod.fst

/-- The failure of a document with a transient url. -/
def transientFailure (mediaId : String) : Failure :=
  .ofMedia .transientAsset (some "Resolve in-browser blob: URLs before exporting") (some mediaId)

/-! ## Submissions -/

/-- What a submission waits for. -/
inductive SubmissionPhase where
  /-- The document to be written. -/
  | writing
  /-- The row to be inserted. -/
  | inserting
  | ended (result : Except Fault Job)

structure Submission where
  id : JobId
  request : ExportRequest
  phase : SubmissionPhase := .writing

inductive SubmissionEvent where
  | documentWritten (reply : Reply)
  /-- The row is inserted with this time of creation. -/
  | rowInserted (createdAt : Int) (reply : Reply)

namespace Submission

/-- A submission that passes the gate. -/
def start (id : JobId) (request : ExportRequest) : Except Fault Submission :=
  match transientMedium? request.timeline with
  | some mediaId => .error (.failed (transientFailure mediaId))
  | none => .ok { id, request }

/-- What the row of a submission is made from. -/
def draft (submission : Submission) : Draft :=
  let document := submission.request.timeline
  { userId := .str submission.request.userId
    projectId := .str submission.request.projectId
    width := .int document.project.canvas.width
    height := .int document.project.canvas.height
    fps := .int document.project.fps
    duration := .num (.real (Timeline.duration document.tracks)) }

def inputKey (submission : Submission) : String :=
  submission.request.userId ++ "/" ++ submission.id.text ++ "/timeline.json"

def unstored (fault : Fault) : Fault :=
  .failed (.of .upload (some ("Failed to store timeline document: " ++ fault.message)))

def finish (result : Except Fault Job) (submission : Submission) : Submission :=
  { submission with phase := .ended result }

/-- The document is written as a reply says. -/
def writeDocument (input : Bucket) (reply : Reply) (world : World) (submission : Submission) :
    World × Submission :=
  match submission.request.timeline.stored with
  | .error fault => (world, submission.finish (.error (unstored fault)))
  | .ok text =>
    let call := input.writeText submission.inputKey text
    match reply with
    | .genuine =>
      match world.onFiles call with
      | (.ok (), world) => (world, { submission with phase := .inserting })
      | (.error fault, world) => (world, submission.finish (.error (unstored fault)))
    | .instead _ => (world, { submission with phase := .inserting })
    | .raises fault committed =>
      (if committed then (world.onFiles call).2 else world,
        submission.finish (.error (unstored fault)))

/-- A row is inserted as a reply says; what is given in its place is asked for a field. -/
def insertRow (id : JobId) (createdAt : Int) (draft : Draft) (field : String) (reply : Reply)
    (world : World) : World × Except Fault Job :=
  match reply with
  | .genuine =>
    match world.store.insert id createdAt draft with
    | .ok (job, store) => ({ world with store }, .ok job)
    | .error fault => (world, .error fault)
  | .instead value => (world, .error (noFieldFault field value))
  | .raises fault committed =>
    match committed, world.store.insert id createdAt draft with
    | true, .ok (_, store) => ({ world with store }, .error fault)
    | _, _ => (world, .error fault)

/-- One event; an event that cannot happen in the phase changes nothing. -/
def step (input : Bucket) (event : SubmissionEvent) (world : World) (submission : Submission) :
    World × Submission :=
  match event, submission.phase with
  | .documentWritten reply, .writing => submission.writeDocument input reply world
  | .rowInserted createdAt reply, .inserting =>
    let (world, result) := insertRow submission.id createdAt submission.draft "id" reply world
    (world, submission.finish result)
  | _, _ => (world, submission)

end Submission

end Montage.Worker
