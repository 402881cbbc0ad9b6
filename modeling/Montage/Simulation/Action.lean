/-
  Montage.Simulation.Action

  What is done to a simulated worker from outside, and what comes back.
-/
import Montage.Api.Body
import Montage.Api.Service
import Montage.Simulation.State
import Montage.Worker.Submission

namespace Montage.Simulation

open Montage.Api Montage.Jobs Montage.Number Montage.Timeline Montage.Worker

inductive Action where
  | submit (userId projectId : String) (timeline : Json)
  /-- Adds a row of its own, with a stored timeline if there is a text. -/
  | enqueue (userId projectId : String) (duration : Json) (timeline : Option String)
  | request (method target : String) (body : RequestBody)
  | poll
  | fill
  | start
  | stop (cancelJobs : Bool)
  | trigger
  | wait (seconds : Binary64)
  | setReply (call : OutsideCall) (reply : Reply)

/-- What an action gives back. -/
inductive Outcome where
  | nothing
  | fault (fault : Fault)
  | job (job : Job)
  | id (id : JobId)
  | ids (ids : List JobId)
  | response (response : Response)

namespace State

/-! ## Jobs -/

def setWorld (world : World) (state : State) : State :=
  { state with worker := { state.worker with world } }

/-- A new job id. -/
def takeId (state : State) : JobId × State :=
  (⟨state.nextNumber⟩, { state with nextNumber := state.nextNumber + 1 })

/-- Submits an export.  Jobs are as old as the order of their ids says. -/
def submit (request : ExportRequest) (state : State) : Except Fault Job × State :=
  match Submission.start ⟨state.nextNumber⟩ request with
  | .error fault => (.error fault, state)
  | .ok submission =>
    let (id, state) := state.takeId
    let input := state.config.input
    let (world, submission) :=
      submission.step input (.documentWritten (state.replies.reply .writeText)) state.worker.world
    let (world, submission) :=
      submission.step input (.rowInserted id.number (state.replies.reply .create)) world
    match submission.phase with
    | .ended result => (result, state.setWorld world)
    | _ => (.error .badRow, state.setWorld world)

/-- Checks a timeline and submits it. -/
def submitTimeline (userId projectId : String) (timeline : Json) (state : State) :
    Except Fault Job × State :=
  match checkDocument .byModel timeline with
  | .valid document => state.submit ⟨userId, projectId, document⟩
  | .invalid problems => (.error (.invalid "TimelineDocument" problems), state)

/-- Writes a text as the timeline of a job as a reply says. -/
def storeTimeline (job : Job) (text : String) (state : State) : Except Fault Unit × State :=
  let write := state.config.input.writeText job.inputKey text
  match state.replies.reply .writeText with
  | .genuine =>
    let (result, world) := state.worker.world.onFiles write
    (result, state.setWorld world)
  | .instead _ => (.ok (), state)
  | .raises fault _ => (.error fault, state)

/-- Adds a row, and stores a text as its timeline. -/
def enqueue (userId projectId : String) (duration : Json) (timeline : Option String)
    (state : State) : Outcome × State :=
  let (id, state) := state.takeId
  let draft : Draft :=
    { userId := .str userId, projectId := .str projectId
      width := .int 640, height := .int 360, fps := .int 30, duration }
  let field := if timeline.isSome then "input_key" else "id"
  let (world, result) :=
    Submission.insertRow id id.number draft field (state.replies.reply .create) state.worker.world
  let state := state.setWorld world
  match result, timeline with
  | .error fault, _ => (.fault fault, state)
  | .ok job, none => (.id job.id, state)
  | .ok job, some text =>
    match state.storeTimeline job text with
    | (.ok (), state) => (.id job.id, state)
    | (.error fault, state) => (.fault fault, state)

/-! ## Requests -/

/-- The answer of an endpoint. -/
def serve (version : String) (body : List UInt8) (endpoint : Endpoint) (state : State) :
    Response × State :=
  match endpoint with
  | .health => (health version state.config state.worker, state)
  | .description => (⟨200, .plain ""⟩, state)
  | .newJob => (⟨202, .accepted⟩, state.accept .trigger)
  | .job id => (lookUp id (state.replies.reply .lookUp) state.worker.world.store, state)
  | .exports =>
    match readBody body with
    | .error response => (response, state)
    | .ok request =>
      match state.submit request with
      | (.ok job, state) => (.ofSubmission (.ok job), state.accept .trigger)
      | (.error fault, state) => (.ofSubmission (.error fault), state)

/-- The url of a request and its body in bytes, if it can be made. -/
def openRequest (target : String) (body : RequestBody) : Except Fault (Web.Url × List UInt8) := do
  let url ← requestUrl target
  let body ← body.encode
  match url.requestFault? with
  | some fault => throw fault
  | none => return (url, body)

/-- What a request comes to. -/
def request (version method target : String) (body : RequestBody) (state : State) :
    Outcome × State :=
  match openRequest target body with
  | .error fault => (.fault fault, state)
  | .ok (url, body) =>
    match route method (requestPath url) with
    | .ok endpoint =>
      let (response, state) := state.serve version body endpoint
      (.response response, state)
    | .error response => (.response (if method = "HEAD" then response.headOnly else response), state)

/-! ## Polls -/

/-- What a poll has come to. -/
def pollOutcome (number : Nat) (state : State) : Outcome :=
  match (state.worker.poll? number).map Poll.point with
  | some (.done (.claimed ids)) => .ids ids
  | some (.done (.raised fault)) => .fault fault
  | _ => .nothing

/-- Begins a poll and lets it come to its end. -/
def poll (event : Event) (state : State) : Outcome × State :=
  let number := state.worker.polls.length
  let state := (state.accept event).pass moment
  (state.pollOutcome number, state)

/-! ## Actions -/

/-- An action, before the moment that follows it. -/
def perform (version : String) (action : Action) (state : State) : Outcome × State :=
  match action with
  | .submit userId projectId timeline =>
    match state.submitTimeline userId projectId timeline with
    | (.ok job, state) => (.job job, state)
    | (.error fault, state) => (.fault fault, state)
  | .enqueue userId projectId duration timeline =>
    state.enqueue userId projectId duration timeline
  | .request method target body => state.request version method target body
  | .poll => state.poll .poll
  | .fill => state.poll .fill
  | .start => (.nothing, state.accept .start)
  | .stop cancelJobs =>
    (.nothing,
      (state.accept (.stop cancelJobs)).passUntil (fun state => state.worker.stop = .idle)
        eventLimit)
  | .trigger => (.nothing, state.accept .trigger)
  | .wait seconds => (.nothing, state.pass seconds)
  | .setReply call reply => (.nothing, { state with replies := state.replies.set call reply })

/-- An action and the moment that follows it. -/
def act (version : String) (action : Action) (state : State) : Outcome × State :=
  let (outcome, state) := state.perform version action
  (outcome, state.pass moment)

end State

end Montage.Simulation
