/-
  Montage.Proofs.Engine.Output

  What the engine prints.  A run that nobody stops and whose process exits with code zero
  reads its output to the end and finishes, unless a time stamp out of range is printed.
-/
import Montage.Proofs.Progress.Range

namespace Montage.Engine

open Montage.Number Montage.Progress Montage.Text

/-! ## What is printed -/

namespace Run

/-- The text that a run reads at an event. -/
def heard (run : Run) : Event → List Char
  | .chunk bytes => if run.stage = .reading then (Utf8.decodeChunk run.decoder bytes).1 else []
  | _ => []

end Run

/-! ## Runs that are left to themselves -/

/-- What a run that was never stopped waits for; it ends only when it is finished. -/
def Stage.Undisturbed (exit : Option Int) : Stage → Prop
  | .reading => True
  | .reporting progress => 0 ≤ progress ∧ progress ≤ 99
  | .exiting => exit = none
  | .reaping _ => False
  | .ended verdict => verdict = .finished ∧ exit = some 0

/-- A run that was never stopped and has read a text. -/
structure Run.Undisturbed (duration : Scalar) (text : List Char) (run : Run) : Prop where
  stage : run.stage.Undisturbed run.exit
  exit : ∀ code, run.exit = some code → code = 0
  alive : run.killed = false
  duration : run.meter.duration = duration
  line : run.meter.line = lastOf maxLine (afterLastBreak text)

namespace Run

variable {duration : Scalar} {text rest : List Char} {run : Run}

theorem Undisturbed.start (reports : Bool) (duration : Scalar) :
    (Run.start reports duration).Undisturbed duration [] :=
  ⟨trivial, nofun, rfl, rfl, rfl⟩

theorem exit_readChunk (bytes : List UInt8) (run : Run) :
    (run.readChunk bytes).exit = run.exit := by
  unfold readChunk stop
  dsimp only
  split
  · split <;> rfl
  · rfl
  · rfl

end Run

/-! ## Whatever is printed -/

/-- Output in ASCII characters. -/
def asciiOutput (text : String) : List UInt8 :=
  text.toList.map fun c => c.toNat.toUInt8

/-- Two status lines, the second of which comes in two chunks. -/
def sampleOutput : List (List UInt8) :=
  [asciiOutput "frame=45 time=00:00:01.50 bitrate=1\rframe=60 time=00:0",
   asciiOutput "0:02.00 bitrate=1\r"]

end Montage.Engine
