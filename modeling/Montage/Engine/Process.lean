/-
  Montage.Engine.Process

  An engine process that follows a script, and a run of it in virtual time: when each
  piece of the diagnostic stream arrives, when the process exits, and when the deadline
  strikes.
-/
import Montage.Engine.Run
import Montage.File.Tree

namespace Montage.Engine

open Montage.Number

/-! ## Scripts -/

/-- A piece of the diagnostic stream and the time that passes before it. -/
structure Piece where
  after : Binary64
  bytes : List UInt8

/-- What a process does. -/
structure Script where
  pieces : List Piece := []
  exitCode : Int := 0
  exitAfter : Binary64 := .zero
  /-- The stream never ends. -/
  hangs : Bool := false
  /-- The text that the process writes to its output file. -/
  output : Option String := none
  /-- The error number if the process does not start. -/
  startError : Option Int := none

/-- Writes the output file of a process; a fault names the path as it was given. -/
def writeOutput (output text : String) : File.Call Unit := do
  if output = "" then throw (.system .notFound "")
  tryCatch (File.Call.writeText (.ofText output) text) fun fault =>
    match fault with
    | .system cause _ => throw (.system cause output)
    | other => throw other

/-- Starts the process of a script. -/
def Script.launch (program output : String) (script : Script) : File.Call Unit := do
  if let some number := script.startError then
    throw (.system (.ofNumber number) program)
  if let some text := script.output then writeOutput output text

/-- The most bytes that one read gives. -/
def readLimit : Nat := 4096

/-- Bytes in runs of at most `readLimit`; the fuel is the number of bytes. -/
def splitBytes : Nat → List UInt8 → List (List UInt8)
  | 0, _ => []
  | fuel + 1, bytes =>
    if bytes.isEmpty then []
    else bytes.take readLimit :: splitBytes fuel (bytes.drop readLimit)

/-- The reads that pieces give, and the time from the last one to the end.  An empty
    piece only delays what comes after it. -/
def readsOf (waited : Binary64) : List Piece → List Piece × Binary64
  | [] => ([], waited)
  | piece :: rest =>
    let wait := waited.add piece.after
    match splitBytes piece.bytes.length piece.bytes with
    | [] => readsOf wait rest
    | first :: more =>
      let (later, final) := readsOf .zero rest
      (⟨wait, first⟩ :: more.map (Piece.mk .zero) ++ later, final)

/-! ## Sources -/

/-- When a run is stopped, and how long it may take. -/
structure Deadline where
  due : Binary64
  timeout : Binary64

/-- The deadline of a run that starts now. -/
def Deadline.start (now timeout : Binary64) : Deadline :=
  ⟨now.add timeout, timeout⟩

/-- What a process still has in store. -/
structure Source where
  script : Script
  reads : List Piece
  endAfter : Binary64
  /-- When its next event is due, and what it is. -/
  due : Option (Binary64 × Event) := none

namespace Source

/-- The next event for a run that has come to a stage at `now`. -/
def plan (now : Binary64) (stage : Stage) (source : Source) : Source :=
  match stage with
  | .reading =>
    match source.reads with
    | piece :: rest =>
      { source with reads := rest, due := some (now.add piece.after, .chunk piece.bytes) }
    | [] =>
      { source with
        due := if source.script.hangs then none else some (now.add source.endAfter, .endOfStream) }
  | .exiting =>
    { source with due := some (now.add source.script.exitAfter, .exited source.script.exitCode) }
  | .reaping _ => { source with due := some (now, .exited (-9)) }
  | .reporting _ => { source with due := none }
  | .ended _ => { source with due := none }

/-- A process that was just started. -/
def start (now : Binary64) (script : Script) : Source :=
  let (reads, endAfter) := readsOf .zero script.pieces
  plan now .reading { script, reads, endAfter }

/-- The next event for a run, which may be its deadline. -/
def next? (deadline : Option Deadline) (stage : Stage) (source : Source) :
    Option (Binary64 × Event) :=
  match stage, deadline, source.due with
  | .reaping _, _, due => due
  | _, none, due => due
  | _, some deadline, none => some (deadline.due, .deadline deadline.timeout)
  | _, some deadline, some (time, event) =>
    if deadline.due.le time then some (deadline.due, .deadline deadline.timeout)
    else some (time, event)

end Source

/-! ## Running alone -/

/-- A watched run, and what it has come to. -/
structure Trial where
  run : Run
  source : Source
  now : Binary64
  /-- The progress that was reported, in order. -/
  progress : List Int

namespace Trial

/-- One event at a time; time never goes back. -/
def handle (time : Binary64) (event : Event) (trial : Trial) : Trial :=
  let now := if time.lt trial.now then trial.now else time
  let run := trial.run.step event
  { trial with run, now, source := trial.source.plan now run.stage }

/-- Delivers reports and due events until the run ends; `failsAt` counts the report
    whose receiver fails. -/
def finish (failsAt : Option Nat) (deadline : Option Deadline) : Nat → Trial → Trial
  | 0, trial => trial
  | fuel + 1, trial =>
    match trial.run.stage with
    | .ended _ => trial
    | .reporting progress =>
      let reports := trial.progress ++ [progress]
      let event : Event :=
        if failsAt = some reports.length then .reportFailed (.callback "callback failed")
        else .reported
      finish failsAt deadline fuel ({ trial with progress := reports }.handle trial.now event)
    | stage =>
      match trial.source.next? deadline stage with
      | none => trial
      | some (time, event) => finish failsAt deadline fuel (trial.handle time event)

end Trial

/-- A run of a script from time zero on. -/
def trial (script : Script) (reports : Bool) (failsAt : Option Nat) (timeout : Option Binary64)
    (duration : Scalar) : Trial :=
  let source := Source.start .zero script
  Trial.finish failsAt (timeout.map (Deadline.start .zero)) (4 * source.reads.length + 12)
    ⟨.start reports duration, source, .zero, []⟩

end Montage.Engine
