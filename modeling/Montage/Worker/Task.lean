/-
  Montage.Worker.Task

  The life of one export job after it has been claimed: read the timeline, fetch the
  assets, render, publish, and record how it ended.  A task stands at one outside call
  at a time; the answer to the call, or a cancellation, moves it on.
-/
import Montage.Asset.Fetch
import Montage.Compile.Compilation
import Montage.Engine.Run
import Montage.Json.Reader
import Montage.Timeline.Reader
import Montage.Worker.World

namespace Montage.Worker

open Montage.Asset Montage.File Montage.Jobs Montage.Timeline

/-! ## Phases -/

/-- How a task is over. -/
inductive Ending where
  | finished
  | cancelled
  /-- The task was cancelled before its first step. -/
  | neverStarted
  deriving DecidableEq, Repr

/-- What a task waits for. -/
inductive Phase where
  /-- Its first step. -/
  | created
  /-- The text of the timeline. -/
  | reading
  /-- The assets of the timeline. -/
  | fetching (document : Document) (gathering : Gathering)
  /-- The start of the engine with these arguments. -/
  | starting (arguments : List String)
  /-- The engine, or the receiver of its progress reports. -/
  | rendering (run : Engine.Run)
  | uploading
  | signing
  /-- The row's update to completed, with what was given as the url. -/
  | completing (url : Json)
  /-- The row's update to failed; `cancelled` says whether the task ends cancelled. -/
  | failing (message : String) (cancelled : Bool)
  | ended (ending : Ending)

structure Task where
  /-- Tasks are numbered in the order in which they are created. -/
  number : Nat
  /-- The job as it was when it was claimed. -/
  job : Job
  phase : Phase := .created
  /-- Whether somebody asked the task to stop. -/
  cancelRequested : Bool := false

/-- What happens to a task. -/
inductive TaskEvent where
  | begin
  | read (reply : Reply)
  | asset (mediaId : String) (received : Except Fault Received)
  /-- The engine has started, or why it has not. -/
  | launched (fault : Option Fault)
  | engine (event : Engine.Event)
  | progressWritten (reply : Reply)
  | uploaded (reply : Reply)
  | signed (reply : Reply)
  | completionWritten (reply : Reply)
  | failureWritten (reply : Reply)
  /-- The task is cancelled at its call; `committed` says whether the call has had its
      effect. -/
  | cancel (committed : Bool)

/-! ## Messages and paths -/

/-- What is recorded about a fault that ends a job. -/
def errorMessage : Fault → String
  | .failed failure => failure.text
  | other => "INTERNAL_ERROR: " ++ other.message

def cancelledMessage : String :=
  "CANCELLED: Worker shut down before the export finished"

/-- The directory that a job works in. -/
def scratchDirectory (config : Config) (id : JobId) : Path :=
  config.scratchRoot.child id.text

def assetDirectory (config : Config) (id : JobId) : Path :=
  (scratchDirectory config id).child "assets"

def outputPath (config : Config) (id : JobId) : Path :=
  (scratchDirectory config id).child "export.mp4"

/-! ## The timeline -/

def unreadable (job : Job) (fault : Fault) : Fault :=
  .failed (.of .inputFetch (some ("Could not read " ++ job.inputKey ++ ": " ++ fault.message)))

/-- The timeline document in a stored text. -/
def loadDocument (key text : String) : Except Fault Document :=
  match Json.read text with
  | .error ⟨.tooDeep container, _⟩ => .error (.tooDeep (Json.Fault.tooDeep container).message)
  | .error error =>
    .error (.failed (.of .inputFetch (some (key ++ " is not valid JSON: " ++ error.describe text))))
  | .ok value =>
    match checkDocument .byModel value with
    | .valid document => .ok document
    | .invalid problems =>
      .error (.failed (.of .timelineParse (some (key ++ " is not a timeline document: " ++
        Validation.headline "TimelineDocument" problems))))

/-- The text that a read gives. -/
def readReply (config : Config) (job : Job) (reply : Reply) (world : World) :
    Except Fault String × World :=
  match reply with
  | .genuine =>
    let (result, world) := world.onFiles (config.input.readText job.inputKey)
    (result.mapError (unreadable job), world)
  | .instead (.str text) => (.ok text, world)
  | .instead value =>
    (.error (.wrongType ("the JSON object must be str, bytes or bytearray, not " ++ value.typeName)),
      world)
  | .raises fault _ => (.error (unreadable job fault), world)

/-! ## Publishing -/

def unpublished (job : Job) (fault : Fault) : Fault :=
  .failed (.of .upload (some ("Could not publish " ++ job.outputKey ++ ": " ++ fault.message)))

/-- The upload of the output. -/
def uploadReply (config : Config) (job : Job) (reply : Reply) (world : World) :
    Except Fault Unit × World :=
  let upload := config.output.upload (outputPath config job.id) job.outputKey
  match reply with
  | .genuine =>
    let (result, world) := world.onFiles upload
    (result.mapError (unpublished job), world)
  | .instead _ => (.ok (), world)
  | .raises fault committed =>
    (.error (unpublished job fault), if committed then (world.onFiles upload).2 else world)

/-- The url under which the output can be downloaded. -/
def signReply (config : Config) (job : Job) (reply : Reply) (world : World) :
    Except Fault Json × World :=
  match reply with
  | .genuine =>
    let (result, world) := world.onFiles (config.output.downloadUrl job.outputKey)
    ((result.mapError (unpublished job)).map .str, world)
  | .instead value => (.ok value, world)
  | .raises fault _ => (.error (unpublished job fault), world)

namespace Task

/-! ## Moving on -/

def isOver (task : Task) : Bool :=
  match task.phase with
  | .ended _ => true
  | _ => false

def moveTo (phase : Phase) (task : Task) : Task :=
  { task with phase }

/-- The task goes on to record a fault. -/
def fail (fault : Fault) (task : Task) : Task :=
  task.moveTo (.failing (errorMessage fault) false)

/-- The end of a task that has started; its directory is removed. -/
def conclude (config : Config) (ending : Ending) (world : World) (task : Task) : World × Task :=
  ((world.onFiles (Call.remove (scratchDirectory config task.job.id))).2, task.moveTo (.ended ending))

/-- The task after its assets are in place. -/
def compileWith (config : Config) (document : Document) (locators : Locators) (task : Task) :
    Task :=
  match Compile.compile config.options (document.withLocators locators) with
  | .ok compilation => task.moveTo (.starting compilation.arguments)
  | .error error => task.fail (.arithmetic error)

/-- The task after it has the text of its timeline. -/
def useText (config : Config) (text : String) (world : World) (task : Task) : World × Task :=
  match loadDocument task.job.inputKey text with
  | .error fault => (world, task.fail fault)
  | .ok document =>
    match wanted document with
    | [] => (world, task.compileWith config document [])
    | items =>
      match world.onFiles (Call.makeDirectories (assetDirectory config task.job.id)) with
      | (.error fault, world) => (world, task.fail fault)
      | (.ok (), world) => (world, task.moveTo (.fetching document (.start items)))

/-- The task after one of its assets has come or failed. -/
def useAsset (config : Config) (document : Document) (gathering : Gathering) (task : Task) :
    Task :=
  match gathering.outcome? with
  | none => task.moveTo (.fetching document gathering)
  | some (.error fault) => task.fail fault
  | some (.ok locators) => task.compileWith config document locators

/-- The task after its engine run has moved. -/
def useRun (run : Engine.Run) (task : Task) : Task :=
  match run.stage with
  | .ended .finished => task.moveTo .uploading
  | .ended (.failed fault) => task.fail fault
  | .ended .cancelled => task.moveTo (.failing cancelledMessage true)
  | _ => task.moveTo (.rendering run)

/-- The change of the row that a task is waiting for, if it waits for one. -/
def pendingWrite (task : Task) : Store → Except Fault Store :=
  let id := task.job.id
  match task.phase with
  | .rendering run =>
    match run.stage with
    | .reporting progress => Store.setProgress id (.int progress)
    | _ => .ok
  | .completing url => Store.markCompleted id url
  | .failing message _ => Store.markFailed id (.str message)
  | _ => .ok

/-- A cancellation at the call that a task is waiting for. -/
def cancelAt (config : Config) (committed : Bool) (world : World) (task : Task) : World × Task :=
  let world := if committed then (world.change task.pendingWrite).2 else world
  match task.phase with
  | .created => (world, task.moveTo (.ended .neverStarted))
  | .rendering run => (world, task.useRun (run.step .cancelled))
  | .failing _ _ => task.conclude config .cancelled world
  | .ended _ => (world, task)
  | _ => (world, task.moveTo (.failing cancelledMessage true))

/-! ## Steps -/

/-- One event; an event that cannot happen in the phase changes nothing. -/
def step (config : Config) (event : TaskEvent) (world : World) (task : Task) : World × Task :=
  match event, task.phase with
  | .begin, .created =>
    match world.onFiles (Call.makeDirectories (scratchDirectory config task.job.id)) with
    | (.ok (), world) => (world, task.moveTo .reading)
    | (.error fault, world) => (world, task.fail fault)
  | .read reply, .reading =>
    match readReply config task.job reply world with
    | (.ok text, world) => task.useText config text world
    | (.error fault, world) => (world, task.fail fault)
  | .asset mediaId received, .fetching document gathering =>
    if gathering.awaits mediaId then
      let (result, world) :=
        world.onFiles (deliver (assetDirectory config task.job.id) received)
      (world, task.useAsset config document (gathering.finish mediaId result))
    else (world, task)
  | .launched none, .starting _ =>
    (world, task.moveTo (.rendering (.start true (.real task.job.duration))))
  | .launched (some fault), .starting _ => (world, task.fail (Engine.startFault fault))
  | .engine event, .rendering run => (world, task.useRun (run.step event))
  | .progressWritten reply, .rendering run =>
    match run.stage with
    | .reporting _ => ((world.write task.pendingWrite reply).2, task.useRun (run.step .reported))
    | _ => (world, task)
  | .uploaded reply, .uploading =>
    match uploadReply config task.job reply world with
    | (.ok (), world) => (world, task.moveTo .signing)
    | (.error fault, world) => (world, task.fail fault)
  | .signed reply, .signing =>
    match signReply config task.job reply world with
    | (.ok url, world) => (world, task.moveTo (.completing url))
    | (.error fault, world) => (world, task.fail fault)
  | .completionWritten reply, .completing _ =>
    match world.write task.pendingWrite reply with
    | (none, world) => task.conclude config .finished world
    | (some fault, world) => (world, task.fail fault)
  | .failureWritten reply, .failing _ cancelled =>
    task.conclude config (if cancelled then .cancelled else .finished)
      (world.write task.pendingWrite reply).2
  | .cancel committed, _ => task.cancelAt config committed world
  | _, _ => (world, task)

end Task

end Montage.Worker
