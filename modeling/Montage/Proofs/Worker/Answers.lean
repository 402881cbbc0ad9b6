/-
  Montage.Proofs.Worker.Answers

  What the export of a job is to come to, told in the order of its stages.  Each outside
  call is answered once; the first stage that has no result decides what is recorded.
-/
import Montage.Proofs.Fault
import Montage.Worker.Task

namespace Montage.Worker

open Montage.Asset Montage.File Montage.Jobs Montage.Number Montage.Timeline

/-! ## Stages -/

/-- The stages of an export. -/
inductive Stage where
  | scratch
  | reading
  | parsing
  | validating
  | fetching
  | compiling
  | rendering
  | uploading
  | signing
  | recording
  deriving DecidableEq, Repr

/-- The place of a stage among the others. -/
def Stage.position : Stage → Nat
  | .scratch => 0
  | .reading => 1
  | .parsing => 2
  | .validating => 3
  | .fetching => 4
  | .compiling => 5
  | .rendering => 6
  | .uploading => 7
  | .signing => 8
  | .recording => 9

/-- A stage that has no result, and why. -/
structure Trouble where
  stage : Stage
  fault : Fault

/-- What is said about a fault itself: a failure speaks with its own code. -/
def ownMessage : Fault → String
  | .failed failure => failure.code ++ ": " ++ failure.message
  | fault => "INTERNAL_ERROR: " ++ fault.message

/-- What is recorded about a trouble. -/
def Trouble.message (job : Job) (trouble : Trouble) : String :=
  match trouble.stage, trouble.fault with
  | .reading, fault =>
    "INPUT_FETCH_FAILED: " ++ ("Could not read " ++ job.inputKey ++ ": " ++ fault.message)
  | .parsing, .malformed problem =>
    "INPUT_FETCH_FAILED: " ++ (job.inputKey ++ " is not valid JSON: " ++ problem)
  | .validating, fault =>
    "INVALID_TIMELINE: " ++ (job.inputKey ++ " is not a timeline document: " ++ fault.message)
  | .uploading, fault | .signing, fault =>
    "UPLOAD_FAILED: " ++ ("Could not publish " ++ job.outputKey ++ ": " ++ fault.message)
  | _, fault => ownMessage fault

/-! ## Answers -/

/-- What a run of the engine that is over has come to. -/
def runResult (run : Engine.Run) : Except Fault Unit :=
  match run.stage with
  | .ended (.failed fault) => .error fault
  | _ => .ok ()

/-- What the engine, or the receiver of its progress reports, answers. -/
inductive EngineAnswer where
  | chunk (bytes : List UInt8)
  | endOfStream
  | exited (code : Int)
  | deadline (timeout : Binary64)
  | progressWritten (reply : Reply)

/-- What an answer is to the run of the engine.  How a report was received is not looked
    at. -/
def EngineAnswer.event : EngineAnswer → Engine.Event
  | .chunk bytes => .chunk bytes
  | .endOfStream => .endOfStream
  | .exited code => .exited code
  | .deadline timeout => .deadline timeout
  | .progressWritten _ => .reported

/-- What an answer is to the task. -/
def EngineAnswer.taskEvent : EngineAnswer → TaskEvent
  | .progressWritten reply => .progressWritten reply
  | answer => .engine answer.event

/-- The answers to the outside calls of an export, each with the world that the call
    finds. -/
structure Answers where
  scratch : World
  read : World × Reply
  assets : List (World × String × Except Fault Received)
  launch : World × Option Fault
  engine : List (World × EngineAnswer)
  upload : World × Reply
  sign : World × Reply
  completion : World × Reply
  failure : World × Reply

/-- The value that a reply gives, if a genuine call comes to `result`. -/
def Reply.value (result : Except Fault Json) : Reply → Except Fault Json
  | .genuine => result
  | .instead value => .ok value
  | .raises fault _ => .error fault

/-- Whether a call succeeds, if a genuine one comes to `result`. -/
def Reply.success (result : Except Fault Unit) : Reply → Except Fault Unit
  | .genuine => result
  | .instead _ => .ok ()
  | .raises fault _ => .error fault

/-! ## Results of stages -/

/-- The value in a text. -/
def parsedText (text : String) : Except Fault Json :=
  match Json.read text with
  | .ok value => .ok value
  | .error ⟨.tooDeep container, _⟩ => .error (.tooDeep (Json.Fault.tooDeep container).message)
  | .error error => .error (.malformed (error.describe text))

/-- The value in what was read, which may be no text. -/
def parsed : Json → Except Fault Json
  | .str text => parsedText text
  | value =>
    .error
      (.wrongType ("the JSON object must be str, bytes or bytearray, not " ++ value.typeName))

def validated (value : Json) : Except Fault Document :=
  match checkDocument .byModel value with
  | .valid document => .ok document
  | .invalid problems => .error (.invalid "TimelineDocument" problems)

/-- The gathering of assets after answers, up to its outcome. -/
def gathered (directory : Path) :
    List (World × String × Except Fault Received) → Gathering → Gathering
  | [], gathering => gathering
  | (world, mediaId, received) :: rest, gathering =>
    if gathering.awaits mediaId then
      gathered directory rest
        (gathering.finish mediaId (world.onFiles (deliver directory received)).1)
    else gathered directory rest gathering

def compiled (config : Config) (document : Document) (locators : Locators) :
    Except Fault Compile.Compilation :=
  (Compile.compile config.options (document.withLocators locators)).mapError .arithmetic

/-- A run of the engine after answers. -/
def watched (engine : List (World × EngineAnswer)) (run : Engine.Run) : Engine.Run :=
  engine.foldl (fun run answer => run.step answer.2.event) run

/-- A result, or the trouble of its stage. -/
def Stage.attempt {α : Type} (stage : Stage) (result : Except Fault α) : Except Trouble α :=
  result.mapError (Trouble.mk stage)

/-- The timeline in what was read. -/
def documentIn (value : Json) : Except Trouble Document := do
  let value ← Stage.parsing.attempt (parsed value)
  Stage.validating.attempt (validated value)

namespace Answers

variable (config : Config) (job : Job) (answers : Answers)

def scratched : Except Fault Unit :=
  (answers.scratch.onFiles (Call.makeDirectories (scratchDirectory config job.id))).1

def fetchedText : Except Fault Json :=
  answers.read.2.value ((answers.read.1.onFiles (config.input.readText job.inputKey)).1.map .str)

/-- Where the assets of a document are; without assets there is nothing to do. -/
def located (document : Document) : Except Fault Locators :=
  match wanted document with
  | [] => .ok []
  | items => do
    let world := (readReply config job answers.read.2 answers.read.1).2
    (world.onFiles (Call.makeDirectories (assetDirectory config job.id))).1
    ((gathered (assetDirectory config job.id) answers.assets (.start items)).outcome?).getD (.ok [])

/-- The run of the engine after all its answers. -/
def run : Engine.Run :=
  watched answers.engine (.start true (.real job.duration))

def rendered : Except Fault Unit :=
  match answers.launch.2 with
  | some fault => .error (Engine.startFault fault)
  | none => runResult (answers.run job)

def uploaded : Except Fault Unit :=
  answers.upload.2.success
    (answers.upload.1.onFiles (config.output.upload (outputPath config job.id) job.outputKey)).1

def signed : Except Fault Json :=
  answers.sign.2.value
    ((answers.sign.1.onFiles (config.output.downloadUrl job.outputKey)).1.map .str)

/-- The url, once it is recorded. -/
def recorded (url : Json) : Except Fault Json := do
  answers.completion.2.success
    ((answers.completion.1.store.markCompleted job.id url).map fun _ => ())
  return url

/-! ## Stages in order -/

/-- The timeline in the input. -/
def loaded : Except Trouble Document := do
  let value ← Stage.reading.attempt (answers.fetchedText config job)
  documentIn value

/-- Everything up to the start of the engine. -/
def prepared : Except Trouble Compile.Compilation := do
  Stage.scratch.attempt (answers.scratched config job)
  let document ← answers.loaded config job
  let locators ← Stage.fetching.attempt (answers.located config job document)
  Stage.compiling.attempt (compiled config document locators)

/-- Everything up to the end of the engine. -/
def filmed : Except Trouble Unit := do
  let _ ← answers.prepared config job
  Stage.rendering.attempt (answers.rendered job)

/-- Everything up to the url. -/
def published : Except Trouble Json := do
  answers.filmed config job
  Stage.uploading.attempt (answers.uploaded config job)
  Stage.signing.attempt (answers.signed config job)

/-- The url of the finished export, or the first trouble. -/
def outcome : Except Trouble Json := do
  let url ← answers.published config job
  Stage.recording.attempt (answers.recorded job url)

end Answers

/-! ## Answers in order -/

/-- An event of a task and the world that it finds. -/
abbrev Moment := World × TaskEvent

def assetMoments (assets : List (World × String × Except Fault Received)) : List Moment :=
  assets.map fun (world, mediaId, received) => (world, .asset mediaId received)

def engineMoments (engine : List (World × EngineAnswer)) : List Moment :=
  engine.map fun (world, answer) => (world, answer.taskEvent)

namespace Answers

variable (answers : Answers)

/-- The answers up to the start of the engine. -/
def preparing : List Moment :=
  [(answers.scratch, .begin)] ++
    ((answers.read.1, .read answers.read.2) :: assetMoments answers.assets)

/-- The answers up to the end of the engine. -/
def filming : List Moment :=
  answers.preparing ++
    ((answers.launch.1, .launched answers.launch.2) :: engineMoments answers.engine)

/-- The answers up to the url. -/
def publishing : List Moment :=
  answers.filming ++
    ([(answers.upload.1, .uploaded answers.upload.2)] ++
      [(answers.sign.1, .signed answers.sign.2)])

/-- The answers that a task is to be given, whichever of them it comes to ask for. -/
def moments : List Moment :=
  answers.publishing ++ [(answers.completion.1, .completionWritten answers.completion.2)] ++
    [(answers.failure.1, .failureWritten answers.failure.2)]

end Answers

end Montage.Worker
