/-
  Montage.Proofs.Engine.ExitReport

  What is said of an engine that exits with a code other than zero.  The report shows the
  end of the text that the diagnostic stream stands for, wherever the stream is cut and
  whenever the process exits.
-/
import Montage.Proofs.Engine.Output
import Montage.Proofs.Text.Sequences

namespace Montage.Engine

open Montage.Number Montage.Progress Montage.Text

/-- Whether an event comes from the stream or from the receiver of a report that it makes. -/
def Event.IsOfStream : Event → Prop
  | .chunk _ => True
  | .endOfStream => True
  | .reported => True
  | _ => False

namespace Run

variable {run : Run} {code : Int} {text : List Char}

/-! ## The stream -/

/-- The texts that chunks give, one after the other. -/
def pieces (decoder : Utf8.Decoder) : List (List UInt8) → List (List Char)
  | [] => []
  | bytes :: rest =>
    (Utf8.decodeChunk decoder bytes).1 :: pieces (Utf8.decodeChunk decoder bytes).2 rest

/-- It does not matter where the stream is cut. -/
theorem flatten_pieces (decoder : Utf8.Decoder) (chunks : List (List UInt8)) :
    (pieces decoder chunks).flatten = (Utf8.decodeChunk decoder chunks.flatten).1 := by
  induction chunks generalizing decoder with
  | nil => rfl
  | cons bytes rest ih =>
      rw [pieces, List.flatten_cons, List.flatten_cons, Utf8.decodeChunk_append, ih]

theorem pieces_append_singleton (decoder : Utf8.Decoder) (chunks : List (List UInt8))
    (bytes : List UInt8) :
    pieces decoder (chunks ++ [bytes]) = pieces decoder chunks ++
      [(Utf8.decodeChunk (Utf8.decodeChunk decoder chunks.flatten).2 bytes).1] := by
  induction chunks generalizing decoder with
  | nil => rfl
  | cons first rest ih =>
      rw [List.cons_append, pieces, pieces, ih, List.flatten_cons, Utf8.decodeChunk_append,
        List.cons_append]

/-- A stream in chunks: a report is received after each chunk that makes one, and after the
    last chunk the stream ends. -/
def stream (chunks : List (List UInt8)) : List Event :=
  chunks.flatMap (fun bytes => [.chunk bytes, .reported]) ++ [.endOfStream]

theorem isOfStream_of_mem_stream {chunks : List (List UInt8)} {event : Event}
    (h : event ∈ stream chunks) : event.IsOfStream := by
  rcases List.mem_append.mp h with hchunk | hend
  · obtain ⟨bytes, -, hbytes⟩ := List.mem_flatMap.mp hchunk
    rcases List.mem_pair.mp hbytes with rfl | rfl <;> trivial
  · obtain rfl := List.mem_singleton.mp hend
    trivial

/-- A chunk whose text can be read is added to what the run knows. -/
theorem step_chunk_reported {bytes : List UInt8} (hreading : run.stage = .reading)
    (hreads : (run.meter.feed (Utf8.decodeChunk run.decoder bytes).1).isOk = true) :
    (run.step (.chunk bytes)).step .reported =
      { run with
        meter := run.meter.after (Utf8.decodeChunk run.decoder bytes).1
        decoder := (Utf8.decodeChunk run.decoder bytes).2
        tail := lastOf tailLength (run.tail ++ (Utf8.decodeChunk run.decoder bytes).1) } := by
  have hchunk : run.step (.chunk bytes) = run.readChunk bytes := by
    simp only [step, hreading]
  rw [hchunk, readChunk]
  dsimp only
  obtain ⟨stage, reports, meter, decoder, tail, exit, killed⟩ := run
  obtain rfl : stage = .reading := hreading
  dsimp only at hreads ⊢
  generalize lastOf tailLength (tail ++ (Utf8.decodeChunk decoder bytes).1) = last
  unfold Meter.after
  cases hfeed : meter.feed (Utf8.decodeChunk decoder bytes).1 with
  | error fault =>
      rw [hfeed] at hreads
      exact absurd hreads Bool.false_ne_true
  | ok result =>
      obtain ⟨shown, next⟩ := result
      cases shown with
      | none => rfl
      | some progress => cases reports <;> rfl

/-- A stream whose text can be read is read to its end. -/
theorem foldl_stream {chunks : List (List UInt8)} (hreading : run.stage = .reading)
    (hexit : run.exit = none) (htail : run.tail = lastOf tailLength text)
    (hreads : Meter.readsAll (pieces run.decoder chunks) run.meter = true) :
    ((stream chunks).foldl step run).stage = .exiting ∧
      ((stream chunks).foldl step run).exit = none ∧
      ((stream chunks).foldl step run).tail =
        lastOf tailLength (text ++ (pieces run.decoder chunks).flatten) := by
  induction chunks generalizing run text with
  | nil =>
      have hend : (stream []).foldl step run = { run with stage := .exiting } := by
        show run.step .endOfStream = _
        simp only [step, hreading, finishReading, hexit]
      rw [hend]
      refine ⟨rfl, hexit, ?_⟩
      rw [pieces, List.flatten_nil, List.append_nil]
      exact htail
  | cons bytes rest ih =>
      obtain ⟨hnow, hrest⟩ := Bool.and_eq_true_iff.mp hreads
      have hstep : (stream (bytes :: rest)).foldl step run =
          (stream rest).foldl step ((run.step (.chunk bytes)).step .reported) := rfl
      rw [hstep, step_chunk_reported hreading hnow, pieces, List.flatten_cons,
        ← List.append_assoc]
      refine ih hreading hexit ?_ hrest
      dsimp only
      rw [htail, lastOf_lastOf_append]

/-! ## The exit -/

/-- A run that was stopped reads no more. -/
theorem step_of_reaping {event : Event} {verdict : Verdict} (hevent : event.IsOfStream)
    (hstage : run.stage = .reaping verdict) : run.step event = run := by
  cases event with
  | chunk bytes => simp only [step, hstage]
  | endOfStream => simp only [step, hstage]
  | reported => simp only [step, hstage]
  | _ => exact hevent.elim

theorem foldl_of_reaping {events : List Event} {verdict : Verdict}
    (hevents : ∀ event ∈ events, event.IsOfStream) (hstage : run.stage = .reaping verdict) :
    events.foldl step run = run := by
  induction events with
  | nil => rfl
  | cons event rest ih =>
      obtain ⟨hevent, hrest⟩ := List.forall_mem_cons.mp hevents
      rw [List.foldl_cons, step_of_reaping hevent hstage]
      exact ih hrest

theorem exit_step {event : Event} (hevent : event.IsOfStream) (hexit : run.exit = none) :
    (run.step event).exit = none := by
  cases event with
  | chunk bytes =>
      cases hstage : run.stage with
      | reading =>
          simp only [step, hstage]
          exact (exit_readChunk bytes run).trans hexit
      | _ => simpa only [step, hstage] using hexit
  | endOfStream =>
      cases hstage : run.stage with
      | reading => simp only [step, hstage, finishReading, hexit]
      | _ => simpa only [step, hstage] using hexit
  | reported => cases hstage : run.stage <;> simpa only [step, hstage] using hexit
  | _ => exact hevent.elim

theorem exit_foldl {events : List Event} (hevents : ∀ event ∈ events, event.IsOfStream)
    (hexit : run.exit = none) : (events.foldl step run).exit = none := by
  induction events generalizing run with
  | nil => exact hexit
  | cons event rest ih =>
      obtain ⟨hevent, hrest⟩ := List.forall_mem_cons.mp hevents
      exact ih hrest (exit_step hevent hexit)

/-- Unless the run is stopped, it does not matter whether the process exits before an event
    of the stream or after it. -/
theorem step_exitWith {event : Event} (hevent : event.IsOfStream) (hexit : run.exit = none)
    (hgoes : ∀ verdict, (run.step event).stage ≠ .reaping verdict) :
    (run.exitWith code).step event = (run.step event).exitWith code := by
  obtain ⟨stage, reports, meter, decoder, tail, exit, killed⟩ := run
  obtain rfl : exit = none := hexit
  cases event with
  | chunk bytes =>
      cases stage with
      | reading =>
          simp only [step, exitWith, readChunk, stop, Option.getD_none] at hgoes ⊢
          generalize lastOf tailLength (tail ++ (Utf8.decodeChunk decoder bytes).1) = last
            at hgoes ⊢
          cases hfeed : meter.feed (Utf8.decodeChunk decoder bytes).1 with
          | error fault => simp [hfeed] at hgoes
          | ok result =>
              obtain ⟨shown, next⟩ := result
              cases shown with
              | none => rfl
              | some progress => cases reports <;> rfl
      | _ => rfl
  | endOfStream => cases stage <;> rfl
  | reported => cases stage <;> rfl
  | _ => exact hevent.elim

/-- The process may exit before any events of the stream that is read to its end. -/
theorem foldl_exitWith {events : List Event} (hevents : ∀ event ∈ events, event.IsOfStream)
    (hexit : run.exit = none) (hend : (events.foldl step run).stage = .exiting) :
    events.foldl step (run.exitWith code) = (events.foldl step run).exitWith code := by
  induction events generalizing run with
  | nil => rfl
  | cons event rest ih =>
      obtain ⟨hevent, hrest⟩ := List.forall_mem_cons.mp hevents
      rw [List.foldl_cons] at hend ⊢
      have hgoes : ∀ verdict, (run.step event).stage ≠ .reaping verdict := by
        intro verdict hstage
        rw [foldl_of_reaping hrest hstage, hstage] at hend
        cases hend
      rw [step_exitWith hevent hexit hgoes]
      exact ih hrest (exit_step hevent hexit) hend

/-- How a run ends whose process exits at any time and whose stream can be read. -/
theorem stage_of_exit {chunks : List (List UInt8)} {before after : List Event}
    (hevents : before ++ after = stream chunks) (hreading : run.stage = .reading)
    (hexit : run.exit = none) (htail : run.tail = lastOf tailLength text)
    (hreads : Meter.readsAll (pieces run.decoder chunks) run.meter = true) :
    ((before ++ .exited code :: after).foldl step run).stage =
      .ended (exitVerdict code
        (lastOf tailLength (text ++ (Utf8.decodeChunk run.decoder chunks.flatten).1))) := by
  have hstream : ∀ event ∈ before ++ after, event.IsOfStream := by
    intro event hevent
    rw [hevents] at hevent
    exact isOfStream_of_mem_stream hevent
  obtain ⟨hbefore, hafter⟩ := List.forall_mem_append.mp hstream
  obtain ⟨hend, hnone, hlast⟩ := foldl_stream hreading hexit htail hreads
  rw [flatten_pieces] at hlast
  rw [← hevents, List.foldl_append] at hend hnone hlast
  have hlate : after.foldl step ((before.foldl step run).exitWith code) =
      (after.foldl step (before.foldl step run)).exitWith code :=
    foldl_exitWith hafter (exit_foldl hbefore hexit) hend
  have hstep : (before.foldl step run).step (.exited code) =
      (before.foldl step run).exitWith code := rfl
  rw [List.foldl_append, List.foldl_cons, hstep, hlate]
  generalize after.foldl step (before.foldl step run) = last at hend hnone hlast
  simp only [exitWith, hend, hnone, hlast, Option.getD_none]

end Run

/-! ## The report -/

theorem message_exitFailure (code : Int) (tail : List Char) :
    (exitFailure code tail).message =
      "ffmpeg exited with code " ++ toString code ++ ": " ++
        String.ofList (trimBy isBlank tail) := by
  -- the message is not empty, so it is not replaced by the default one
  simp [exitFailure, Failure.ofEngine, Failure.of, Failure.given, Option.filter]

/-- The report of an engine that fails shows the last 2000 characters of its diagnostics,
    without the blanks around them.  It matters neither where the chunks are cut, be it inside
    a character, nor when the process exits: the text is the one that all bytes stand for,
    less an unfinished character at their end. -/
theorem exitReport_of_stream (reports : Bool) (duration : Scalar) {code : Int}
    (hcode : code ≠ 0) {chunks : List (List UInt8)}
    (hreads : Meter.readsAll (Run.pieces none chunks) { duration } = true)
    {before after : List Event} (hevents : before ++ after = Run.stream chunks) :
    (∃ whole text, Utf8.Clipped chunks.flatten whole ∧ Utf8.Decoding whole text) ∧
      ∀ whole text, Utf8.Clipped chunks.flatten whole → Utf8.Decoding whole text →
        ∃ failure : Failure,
          ((before ++ .exited code :: after).foldl Run.step (Run.start reports duration)).stage =
            .ended (.failed (.failed failure)) ∧
          failure.kind = .engine ∧ failure.exitCode = some code ∧
          failure.message = "ffmpeg exited with code " ++ toString code ++ ": " ++
            String.ofList (trimBy isBlank (lastOf 2000 text)) := by
  constructor
  · obtain ⟨whole, hwhole⟩ := Utf8.exists_clipped chunks.flatten
    obtain ⟨text, htext⟩ := Utf8.exists_decoding whole
    exact ⟨whole, text, hwhole, htext⟩
  · intro whole text hwhole htext
    have hread : (Utf8.decodeChunk none chunks.flatten).1 = text :=
      Utf8.decodeChunk_of_clipped hwhole htext
    have hstage :
        ((before ++ .exited code :: after).foldl Run.step (Run.start reports duration)).stage =
          .ended (Run.exitVerdict code
            (lastOf tailLength ([] ++ (Utf8.decodeChunk none chunks.flatten).1))) :=
      Run.stage_of_exit hevents rfl rfl rfl hreads
    refine ⟨exitFailure code (lastOf tailLength text), ?_, rfl, rfl, message_exitFailure code _⟩
    rw [hstage, List.nil_append, hread, Run.exitVerdict, if_neg hcode]

/-- A message whose last letter comes in two chunks, a byte that is no text, and a line that
    ends inside a character. -/
def sampleDiagnostics : List (List UInt8) :=
  [asciiOutput "no such file: caf" ++ [0xc3], [0xa9, 0xff], asciiOutput "\n" ++ [0xe2, 0x82]]

theorem exitReport_of_stream_sampleDiagnostics :
    Meter.readsAll (Run.pieces none sampleDiagnostics) { duration := .int 3 } = true ∧
      ∃ failure : Failure,
        (((Run.stream sampleDiagnostics).take 3 ++
            .exited 1 :: (Run.stream sampleDiagnostics).drop 3).foldl Run.step
          (Run.start true (.int 3))).stage = .ended (.failed (.failed failure)) ∧
        failure.exitCode = some 1 ∧
        failure.message = "ffmpeg exited with code 1: no such file: café\ufffd" := by
  have hreads :
      Meter.readsAll (Run.pieces none sampleDiagnostics) { duration := .int 3 } = true := by
    decide +kernel
  have heuro : Utf8.IsUnfinished [0xe2, 0x82] := ⟨by decide, '€', by decide, by decide⟩
  have hbytes : sampleDiagnostics.flatten =
      asciiOutput "no such file: caf" ++ [0xc3, 0xa9, 0xff, 0x0a] ++ [0xe2, 0x82] := by
    decide +kernel
  have hclip : Utf8.Clipped sampleDiagnostics.flatten
      (asciiOutput "no such file: caf" ++ [0xc3, 0xa9, 0xff, 0x0a]) := hbytes ▸ .cut heuro
  have hdecode : Utf8.Decoding (asciiOutput "no such file: caf" ++ [0xc3, 0xa9, 0xff, 0x0a])
      "no such file: café\ufffd\n".toList := by
    rw [Utf8.decoding_iff]
    decide +kernel
  have hone : (1 : Int) ≠ 0 := by decide
  obtain ⟨failure, hstage, -, hcode, hmessage⟩ :=
    (exitReport_of_stream true (.int 3) hone hreads
      (List.take_append_drop 3 (Run.stream sampleDiagnostics))).2 _ _ hclip hdecode
  refine ⟨hreads, failure, hstage, hcode, hmessage.trans ?_⟩
  decide +kernel

end Montage.Engine
