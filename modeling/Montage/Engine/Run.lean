/-
  Montage.Engine.Run

  One run of the rendering engine, seen from the side that watches it: it reads the
  diagnostic stream, reports progress, waits for the exit, and kills the process when
  it has to stop before that.  A run is a state that events move forward.
-/
import Montage.Progress.Meter
import Montage.Text.Blank
import Montage.Text.Utf8

namespace Montage.Engine

open Montage.Number Montage.Progress Montage.Text

/-! ## Command and messages -/

/-- The command that renders to a path; an existing file is replaced. -/
def command (program : String) (arguments : List String) (output : String) : List String :=
  program :: "-y" :: arguments ++ [output]

/-- The fault of an engine that does not start: a failure of the engine, if the system is
    what refuses. -/
def startFault : Fault → Fault
  | .system cause path =>
    .failed (.ofEngine .engine (some ("Failed to start ffmpeg: " ++ cause.message path)) none)
  | other => other

/-- The failure of an engine that still runs at its deadline. -/
def timeoutFailure (timeout : Binary64) : Failure :=
  .ofEngine .timeout (some ("ffmpeg did not finish within " ++ Decimal.general 6 timeout ++ "s")) none

/-- How many characters of the diagnostic stream an exit report shows. -/
def tailLength : Nat := 2000

/-- The failure of an engine that exits with a code other than zero. -/
def exitFailure (code : Int) (tail : List Char) : Failure :=
  .ofEngine .engine
    (some ("ffmpeg exited with code " ++ toString code ++ ": " ++
      String.ofList (trimBy isBlank tail)))
    (some code)

/-! ## States -/

/-- How a run ends. -/
inductive Verdict where
  /-- The output is complete. -/
  | finished
  | failed (fault : Fault)
  | cancelled
  deriving DecidableEq, Repr

/-- What a run waits for. -/
inductive Stage where
  /-- More of the diagnostic stream. -/
  | reading
  /-- The receiver of a progress report. -/
  | reporting (progress : Int)
  /-- The exit, after the end of the stream. -/
  | exiting
  /-- The end of a process that was killed. -/
  | reaping (verdict : Verdict)
  | ended (verdict : Verdict)
  deriving DecidableEq, Repr

/-- A run after its process was started. -/
structure Run where
  stage : Stage := .reading
  /-- Whether anyone wants to hear of progress. -/
  reports : Bool
  meter : Meter
  decoder : Utf8.Decoder := none
  /-- The end of the diagnostic stream so far. -/
  tail : List Char := []
  /-- The exit code, once the process has ended. -/
  exit : Option Int := none
  killed : Bool := false

/-- What happens to a run. -/
inductive Event where
  | chunk (bytes : List UInt8)
  | endOfStream
  /-- The report was received. -/
  | reported
  /-- The receiver of the report failed. -/
  | reportFailed (fault : Fault)
  /-- The process ended with this code. -/
  | exited (code : Int)
  | deadline (timeout : Binary64)
  | cancelled

/-- A run as it starts. -/
def Run.start (reports : Bool) (duration : Scalar) : Run :=
  { reports, meter := { duration } }

namespace Run

/-! ## Steps -/

/-- Ends a run early.  A process that has not ended by itself is killed first. -/
def stop (verdict : Verdict) (run : Run) : Run :=
  match run.exit with
  | some _ => { run with stage := .ended verdict }
  | none => { run with stage := .reaping verdict, killed := true }

/-- What an exit code means. -/
def exitVerdict (code : Int) (tail : List Char) : Verdict :=
  if code = 0 then .finished else .failed (.failed (exitFailure code tail))

/-- Decodes a chunk, keeps the end of the text and looks for progress. -/
def readChunk (bytes : List UInt8) (run : Run) : Run :=
  let (text, decoder) := Utf8.decodeChunk run.decoder bytes
  let run := { run with decoder, tail := lastOf tailLength (run.tail ++ text) }
  match run.meter.feed text with
  | .error fault => run.stop (.failed fault)
  | .ok (none, meter) => { run with meter }
  | .ok (some progress, meter) =>
    { run with meter, stage := if run.reports then .reporting progress else .reading }

/-- The end of the stream; the process may have ended before it. -/
def finishReading (run : Run) : Run :=
  match run.exit with
  | some code => { run with stage := .ended (exitVerdict code run.tail) }
  | none => { run with stage := .exiting }

/-- The end of the process. -/
def exitWith (code : Int) (run : Run) : Run :=
  let run := { run with exit := some (run.exit.getD code) }
  match run.stage with
  | .exiting => { run with stage := .ended (exitVerdict code run.tail) }
  | .reaping verdict => { run with stage := .ended verdict }
  | _ => run

/-- Whether a run can still be stopped from outside. -/
def isStoppable (run : Run) : Bool :=
  match run.stage with
  | .reading | .reporting _ | .exiting => true
  | .reaping _ | .ended _ => false

/-- One event; an event that cannot happen at the stage changes nothing. -/
def step (run : Run) (event : Event) : Run :=
  match event, run.stage with
  | .chunk bytes, .reading => run.readChunk bytes
  | .endOfStream, .reading => run.finishReading
  | .reported, .reporting _ => { run with stage := .reading }
  | .reportFailed fault, .reporting _ => run.stop (.failed fault)
  | .exited code, _ => run.exitWith code
  | .deadline timeout, _ =>
    if run.isStoppable then run.stop (.failed (.failed (timeoutFailure timeout))) else run
  | .cancelled, .reaping _ => { run with stage := .ended .cancelled }
  | .cancelled, _ => if run.isStoppable then run.stop .cancelled else run
  | _, _ => run

end Run

end Montage.Engine
