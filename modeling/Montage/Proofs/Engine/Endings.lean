/-
  Montage.Proofs.Engine.Endings

  How runs of the engine end.  The process may exit, its output may end, the deadline may
  strike, the receiver of a report may fail and the run may be cancelled in any order.  A run
  is over only when its process has exited, which was killed if it had not exited by itself,
  and what happened first decides what the run comes to.
-/
import Montage.Proofs.Engine.ExitReport
import Montage.Proofs.Progress.Reported

namespace Montage.Engine

open Montage.Number Montage.Progress Montage.Text

/-! ## Courses -/

/-- Whether an event can happen to a run: the stream is read only at that stage, only a report
    that was made is received, a process exits once, and a run is stopped only while it watches
    its process. -/
def Run.Awaits (run : Run) : Event → Prop
  | .chunk _ => run.stage = .reading
  | .endOfStream => run.stage = .reading
  | .reported => ∃ progress, run.stage = .reporting progress
  | .reportFailed _ => ∃ progress, run.stage = .reporting progress
  | .exited _ => run.exit = none
  | .deadline _ => run.isStoppable = true
  | .cancelled => run.isStoppable = true

/-- A run, with all that has happened to it since its process was started. -/
inductive Course (reports : Bool) (duration : Scalar) : List Event → Run → Prop
  | start : Course reports duration [] (.start reports duration)
  | step {events : List Event} {run : Run} {event : Event}
      (before : Course reports duration events run) (awaited : run.Awaits event) :
      Course reports duration (events ++ [event]) (run.step event)

/-! ## Interruptions -/

/-- What makes a run give up its process. -/
inductive Interruption where
  | deadline (timeout : Binary64)
  | cancelled
  /-- The receiver of a report failed. -/
  | reportFailed (fault : Fault)
  /-- The progress could not be read. -/
  | unreadable (fault : Fault)

/-- What an interrupted run comes to. -/
def Interruption.verdict : Interruption → Verdict
  | .deadline timeout => .failed (.failed (timeoutFailure timeout))
  | .cancelled => .cancelled
  | .reportFailed fault => .failed fault
  | .unreadable fault => .failed fault

/-- The bytes that an event brings. -/
def Event.bytes? : Event → Option (List UInt8)
  | .chunk bytes => some bytes
  | _ => none

/-- How an event interrupts a run that it happens to, whatever was read before. -/
def Event.interruption? : Event → Option Interruption
  | .deadline timeout => some (.deadline timeout)
  | .cancelled => some .cancelled
  | .reportFailed fault => some (.reportFailed fault)
  | _ => none

/-- The chunks among some events. -/
def chunks (events : List Event) : List (List UInt8) :=
  events.filterMap Event.bytes?

/-- Whether an interruption is among the events since the start of a run. -/
def Interruption.Occurs (duration : Scalar) (events : List Event) : Interruption → Prop
  | .deadline timeout => .deadline timeout ∈ events
  | .cancelled => .cancelled ∈ events
  | .reportFailed fault => .reportFailed fault ∈ events
  | .unreadable fault =>
    Meter.feedAll (Run.pieces none (chunks events)) { duration } = .error fault

/-- Whether nothing interrupts a run. -/
def Uninterrupted (duration : Scalar) (events : List Event) : Prop :=
  ∀ interruption : Interruption, ¬ interruption.Occurs duration events

/-- Whether the process exits before anything interrupts the run. -/
def ExitsByItself (duration : Scalar) (events : List Event) : Prop :=
  ∃ before code after, events = before ++ .exited code :: after ∧ Uninterrupted duration before

/-- Whether an interruption is the only one. -/
structure Interruption.Decides (duration : Scalar) (events : List Event)
    (interruption : Interruption) : Prop where
  occurs : interruption.Occurs duration events
  only : ∀ other : Interruption, other.Occurs duration events → other = interruption

section

variable {duration : Scalar} {events : List Event} {event : Event} {interruption : Interruption}

theorem uninterrupted_nil (duration : Scalar) : Uninterrupted duration [] := by
  intro interruption hoccurs
  cases interruption <;> cases hoccurs

theorem chunks_append_of_bytes? (hbytes : event.bytes? = none) :
    chunks (events ++ [event]) = chunks events := by
  simp [chunks, hbytes]

theorem chunks_append_chunk (events : List Event) (bytes : List UInt8) :
    chunks (events ++ [.chunk bytes]) = chunks events ++ [bytes] := by
  simp [chunks, Event.bytes?]

/-- What interrupts a run by an event that is no chunk did so before, or is the event. -/
theorem Interruption.occurs_append (hbytes : event.bytes? = none) :
    interruption.Occurs duration (events ++ [event]) ↔
      interruption.Occurs duration events ∨ event.interruption? = some interruption := by
  cases interruption with
  | unreadable fault =>
      have hnone : event.interruption? ≠ some (.unreadable fault) := by
        cases event <;> nofun
      rw [Occurs, chunks_append_of_bytes? hbytes]
      exact (or_iff_left hnone).symm
  | _ => cases event <;> simp [Occurs, Event.interruption?, eq_comm]

theorem Uninterrupted.append (h : Uninterrupted duration events) (hbytes : event.bytes? = none)
    (hevent : event.interruption? = none) : Uninterrupted duration (events ++ [event]) := by
  intro interruption hoccurs
  rcases (Interruption.occurs_append hbytes).mp hoccurs with hbefore | hnow
  · exact h interruption hbefore
  · rw [hevent] at hnow
    cases hnow

/-- The first interruption is the only one. -/
theorem Uninterrupted.decides (h : Uninterrupted duration events) (hbytes : event.bytes? = none)
    (hevent : event.interruption? = some interruption) :
    interruption.Decides duration (events ++ [event]) where
  occurs := (Interruption.occurs_append hbytes).mpr (.inr hevent)
  only other hother := by
    have hnow := ((Interruption.occurs_append hbytes).mp hother).resolve_left (h other)
    exact Option.some.inj (hnow.symm.trans hevent)

theorem Interruption.Decides.append (h : interruption.Decides duration events)
    (hbytes : event.bytes? = none) (hevent : event.interruption? = none) :
    interruption.Decides duration (events ++ [event]) where
  occurs := (occurs_append hbytes).mpr (.inl h.occurs)
  only other hother := by
    rcases (occurs_append hbytes).mp hother with hbefore | hnow
    · exact h.only other hbefore
    · rw [hevent] at hnow
      cases hnow

/-- What interrupts a run by a chunk of the stream is that its progress cannot be read. -/
theorem Uninterrupted.occurs_chunk (h : Uninterrupted duration events)
    {results : List (Option Int)} {meter : Meter}
    (hread : Meter.feedAll (Run.pieces none (chunks events)) { duration } = .ok (results, meter))
    (bytes : List UInt8) (interruption : Interruption) :
    interruption.Occurs duration (events ++ [.chunk bytes]) ↔
      ∃ fault, interruption = .unreadable fault ∧
        meter.feed (Utf8.decodeChunk (Utf8.decodeChunk none (chunks events).flatten).2 bytes).1 =
          .error fault := by
  cases interruption with
  | unreadable fault =>
      rw [Interruption.Occurs, chunks_append_chunk, Run.pieces_append_singleton,
        Meter.feedAll_append_singleton hread]
      simp only [Interruption.unreadable.injEq, exists_eq_left']
      cases meter.feed _ with
      | error other => simp [Except.map]
      | ok read => simp [Except.map]
  | deadline timeout =>
      refine iff_of_false (fun hoccurs => ?_) nofun
      exact h (.deadline timeout) (by simpa [Interruption.Occurs] using hoccurs)
  | cancelled =>
      refine iff_of_false (fun hoccurs => ?_) nofun
      exact h .cancelled (by simpa [Interruption.Occurs] using hoccurs)
  | reportFailed fault =>
      refine iff_of_false (fun hoccurs => ?_) nofun
      exact h (.reportFailed fault) (by simpa [Interruption.Occurs] using hoccurs)

theorem exitsByItself_append :
    ExitsByItself duration (events ++ [event]) ↔
      ExitsByItself duration events ∨
        (∃ code, event = .exited code) ∧ Uninterrupted duration events := by
  constructor
  · rintro ⟨before, code, after, hsplit, hbefore⟩
    -- the exit is the new event, or one of the old ones
    rcases List.eq_nil_or_concat after with rfl | ⟨rest, last, rfl⟩
    · obtain ⟨rfl, hlast⟩ := List.append_inj' hsplit rfl
      exact .inr ⟨⟨code, (List.singleton_inj.mp hlast)⟩, hbefore⟩
    · have hsplit' : events ++ [event] = (before ++ .exited code :: rest) ++ [last] := by
        simpa using hsplit
      obtain ⟨hevents, -⟩ := List.append_inj' hsplit' rfl
      exact .inl ⟨before, code, rest, hevents, hbefore⟩
  · rintro (⟨before, code, after, rfl, hbefore⟩ | ⟨⟨code, rfl⟩, hbefore⟩)
    · exact ⟨before, code, after ++ [event], by simp, hbefore⟩
    · exact ⟨events, code, [], rfl, hbefore⟩

end

/-! ## Where a run stands -/

namespace Run

/-- A run that watches its process, and has read what came of the stream. -/
structure Watches (duration : Scalar) (events : List Event) (run : Run) : Prop where
  stoppable : run.isStoppable = true
  uninterrupted : Uninterrupted duration events
  alive : run.killed = false
  decoder : run.decoder = (Utf8.decodeChunk none (chunks events).flatten).2
  meter : ∃ results,
    Meter.feedAll (pieces none (chunks events)) { duration } = .ok (results, run.meter)
  ended : .endOfStream ∈ events ↔ run.stage = .exiting
  waits : run.stage = .exiting → run.exit = none

/-- What has become of a run by the events since its start. -/
inductive Stands (duration : Scalar) (events : List Event) (run : Run) : Prop
  | watching (watches : run.Watches duration events)
  | reaping {interruption : Interruption} (decides : interruption.Decides duration events)
      (stage : run.stage = .reaping interruption.verdict) (exit : run.exit = none)
      (killed : run.killed = true)
  | interrupted {interruption : Interruption} (decides : interruption.Decides duration events)
      (stage : run.stage = .ended interruption.verdict) (exit : run.exit ≠ none)
  | complete {code : Int} (uninterrupted : Uninterrupted duration events)
      (stage : run.stage = .ended (exitVerdict code run.tail)) (exit : run.exit = some code)
      (ended : .endOfStream ∈ events)

variable {duration : Scalar} {events : List Event} {event : Event} {run : Run}

theorem stands_start (reports : Bool) (duration : Scalar) :
    (Run.start reports duration).Stands duration [] :=
  .watching ⟨rfl, uninterrupted_nil duration, rfl, rfl, ⟨[], rfl⟩, iff_of_false nofun nofun, nofun⟩

/-- A run that is interrupted waits for the end of its process, if that has not come. -/
theorem stands_stop (interruption : Interruption) (h : interruption.Decides duration events)
    (run : Run) : (run.stop interruption.verdict).Stands duration events := by
  unfold stop
  split
  next code hexit =>
    exact .interrupted h rfl (by simp [hexit])
  next hexit => exact .reaping h rfl hexit rfl

theorem Watches.ne_over (h : run.Watches duration events) (verdict : Verdict) :
    run.stage ≠ .reaping verdict ∧ run.stage ≠ .ended verdict := by
  have hstoppable := h.stoppable
  constructor <;> intro hstage <;> simp [isStoppable, hstage] at hstoppable

theorem Stands.watches_of_isStoppable (h : run.Stands duration events)
    (hstoppable : run.isStoppable = true) : run.Watches duration events := by
  cases h with
  | watching watches => exact watches
  | reaping decides stage exit killed => simp [isStoppable, stage] at hstoppable
  | interrupted decides stage exit => simp [isStoppable, stage] at hstoppable
  | complete uninterrupted stage exit ended => simp [isStoppable, stage] at hstoppable

theorem Watches.readChunk (h : run.Watches duration events) (hreading : run.stage = .reading)
    (bytes : List UInt8) : (run.readChunk bytes).Stands duration (events ++ [.chunk bytes]) := by
  obtain ⟨stage, reports, meter, decoder, tail, exit, killed⟩ := run
  obtain ⟨-, huninterrupted, rfl, rfl, ⟨results, hread⟩, hended, -⟩ := h
  obtain rfl : stage = .reading := hreading
  have hchunk := huninterrupted.occurs_chunk hread bytes
  unfold Run.readChunk
  dsimp only
  cases hfeed : meter.feed
      (Utf8.decodeChunk (Utf8.decodeChunk none (chunks events).flatten).2 bytes).1 with
  | error fault =>
      refine stands_stop (.unreadable fault) ⟨?_, fun other hother => ?_⟩ _
      · exact (hchunk _).mpr ⟨fault, rfl, hfeed⟩
      · obtain ⟨raised, rfl, hraised⟩ := (hchunk other).mp hother
        rw [hfeed] at hraised
        rw [Except.error.inj hraised]
  | ok told =>
      obtain ⟨shown, next⟩ := told
      have hnone : Uninterrupted duration (events ++ [.chunk bytes]) := by
        intro interruption hoccurs
        obtain ⟨fault, -, hfault⟩ := (hchunk interruption).mp hoccurs
        rw [hfeed] at hfault
        cases hfault
      have hdecoder : (Utf8.decodeChunk (Utf8.decodeChunk none (chunks events).flatten).2 bytes).2 =
          (Utf8.decodeChunk none (chunks (events ++ [.chunk bytes])).flatten).2 := by
        rw [chunks_append_chunk, List.flatten_concat, Utf8.decodeChunk_append]
      have hmeter : Meter.feedAll (pieces none (chunks (events ++ [.chunk bytes]))) { duration } =
          .ok (results ++ [shown], next) := by
        rw [chunks_append_chunk, pieces_append_singleton, Meter.feedAll_append_singleton hread,
          hfeed]
        rfl
      have hopen : .endOfStream ∉ events ++ [.chunk bytes] := by
        intro hmem
        have hbefore : .endOfStream ∈ events := by simpa using hmem
        cases hended.mp hbefore
      cases shown with
      | none =>
          exact .watching
            ⟨rfl, hnone, rfl, hdecoder, ⟨_, hmeter⟩, iff_of_false hopen nofun, nofun⟩
      | some progress =>
          have hstage : (if reports then .reporting progress else .reading) ≠ Stage.exiting := by
            split <;> nofun
          refine .watching ⟨?_, hnone, rfl, hdecoder, ⟨_, hmeter⟩, iff_of_false hopen hstage,
            fun hexiting => absurd hexiting hstage⟩
          cases reports <;> rfl

/-- A run goes on watching when it comes to another stage without having read more. -/
theorem Watches.goOn (h : run.Watches duration events) (hbytes : event.bytes? = none)
    (hevent : event.interruption? = none) {next : Run} (hstoppable : next.isStoppable = true)
    (hsame : next.killed = run.killed ∧ next.decoder = run.decoder ∧ next.meter = run.meter)
    (hended : .endOfStream ∈ events ++ [event] ↔ next.stage = .exiting)
    (hwaits : next.stage = .exiting → next.exit = none) :
    next.Watches duration (events ++ [event]) := by
  obtain ⟨hkilled, hdecoder, hmeter⟩ := hsame
  refine ⟨hstoppable, h.uninterrupted.append hbytes hevent, hkilled.trans h.alive, ?_, ?_, hended,
    hwaits⟩
  · rw [hdecoder, h.decoder, chunks_append_of_bytes? hbytes]
  · rw [chunks_append_of_bytes? hbytes, hmeter]
    exact h.meter

/-- The stream has not ended for a run that is at another stage than the exit. -/
theorem Watches.not_ended (h : run.Watches duration events) (hstage : run.stage ≠ .exiting)
    (hevent : event ≠ .endOfStream) : .endOfStream ∉ events ++ [event] := by
  intro hmem
  rcases List.mem_append.mp hmem with hbefore | hnow
  · exact hstage (h.ended.mp hbefore)
  · exact hevent (List.mem_singleton.mp hnow).symm

theorem Watches.finishReading (h : run.Watches duration events) :
    run.finishReading.Stands duration (events ++ [.endOfStream]) := by
  have hmem : Event.endOfStream ∈ events ++ [.endOfStream] := by simp
  unfold Run.finishReading
  split
  next code hexit => exact .complete (h.uninterrupted.append rfl rfl) rfl hexit hmem
  next hexit =>
    exact .watching
      (h.goOn rfl rfl rfl ⟨rfl, rfl, rfl⟩ (iff_of_true hmem rfl) fun _ => hexit)

theorem Stands.exitWith (h : run.Stands duration events) (hexit : run.exit = none) (code : Int) :
    (run.exitWith code).Stands duration (events ++ [.exited code]) := by
  obtain ⟨stage, reports, meter, decoder, tail, exit, killed⟩ := run
  obtain rfl : exit = none := hexit
  cases h with
  | watching watches =>
      cases stage with
      | reading =>
          have hopen : .endOfStream ∉ events ++ [.exited code] := watches.not_ended nofun nofun
          exact .watching
            (watches.goOn rfl rfl rfl ⟨rfl, rfl, rfl⟩ (iff_of_false hopen nofun) nofun)
      | reporting progress =>
          have hopen : .endOfStream ∉ events ++ [.exited code] := watches.not_ended nofun nofun
          exact .watching
            (watches.goOn rfl rfl rfl ⟨rfl, rfl, rfl⟩ (iff_of_false hopen nofun) nofun)
      | exiting =>
          exact .complete (watches.uninterrupted.append rfl rfl) rfl rfl
            (List.mem_append_left _ (watches.ended.mpr rfl))
      | reaping verdict => cases watches.stoppable
      | ended verdict => cases watches.stoppable
  | reaping decides stage exit killed =>
      obtain rfl := stage
      exact .interrupted (decides.append rfl rfl) rfl nofun
  | interrupted decides stage exit => exact absurd rfl exit
  | complete uninterrupted stage exit ended => cases exit

/-- Whatever can happen to a run, what has become of it follows from what has happened. -/
theorem stands_step (h : run.Stands duration events) (hawaits : run.Awaits event) :
    (run.step event).Stands duration (events ++ [event]) := by
  cases event with
  | chunk bytes =>
      have hreading : run.stage = .reading := hawaits
      have hwatches := h.watches_of_isStoppable (by rw [isStoppable, hreading])
      simp only [step, hreading]
      exact hwatches.readChunk hreading bytes
  | endOfStream =>
      have hreading : run.stage = .reading := hawaits
      have hwatches := h.watches_of_isStoppable (by rw [isStoppable, hreading])
      simp only [step, hreading]
      exact hwatches.finishReading
  | reported =>
      obtain ⟨progress, hreporting⟩ := hawaits
      have hwatches := h.watches_of_isStoppable (by rw [isStoppable, hreporting])
      have hopen : .endOfStream ∉ events ++ [.reported] :=
        hwatches.not_ended (by simp [hreporting]) (by simp)
      simp only [step, hreporting]
      exact .watching
        (hwatches.goOn rfl rfl rfl ⟨rfl, rfl, rfl⟩ (iff_of_false hopen (by simp)) (by simp))
  | reportFailed fault =>
      obtain ⟨progress, hreporting⟩ := hawaits
      have hwatches := h.watches_of_isStoppable (by rw [isStoppable, hreporting])
      simp only [step, hreporting]
      exact stands_stop (.reportFailed fault) (hwatches.uninterrupted.decides rfl rfl) run
  | exited code => exact h.exitWith hawaits code
  | deadline timeout =>
      have hstoppable : run.isStoppable = true := hawaits
      have hwatches := h.watches_of_isStoppable hstoppable
      simp only [step, if_pos hstoppable]
      exact stands_stop (.deadline timeout) (hwatches.uninterrupted.decides rfl rfl) run
  | cancelled =>
      have hstoppable : run.isStoppable = true := hawaits
      have hwatches := h.watches_of_isStoppable hstoppable
      have hstep : run.step .cancelled = run.stop .cancelled := by
        cases hstage : run.stage <;> simp_all [step, isStoppable]
      rw [hstep]
      exact stands_stop .cancelled (hwatches.uninterrupted.decides rfl rfl) run

/-! ## The process -/

/-- Whether a step leaves a process as it is, or kills it while it runs. -/
structure SparesExited (run next : Run) : Prop where
  exit : next.exit = run.exit
  killed : next.killed = run.killed ∨ run.exit = none

theorem sparesExited_stop (verdict : Verdict) (run : Run) : SparesExited run (run.stop verdict) := by
  unfold stop
  split
  next => exact ⟨rfl, .inl rfl⟩
  next hexit => exact ⟨rfl, .inr hexit⟩

theorem sparesExited_readChunk (bytes : List UInt8) (run : Run) :
    SparesExited run (run.readChunk bytes) := by
  unfold readChunk
  generalize Utf8.decodeChunk run.decoder bytes = decoded
  dsimp only
  generalize lastOf tailLength (run.tail ++ decoded.1) = tail
  split
  · obtain ⟨hexit, hkilled⟩ :=
      sparesExited_stop (.failed _) { run with decoder := decoded.2, tail }
    exact ⟨hexit, hkilled⟩
  · exact ⟨rfl, .inl rfl⟩
  · exact ⟨rfl, .inl rfl⟩

/-- A process exits by itself, and is killed only as long as it has not exited. -/
theorem sparesExited_step (hawaits : run.Awaits event) (hevent : ∀ code, event ≠ .exited code) :
    SparesExited run (run.step event) := by
  unfold step
  split
  · exact sparesExited_readChunk _ run
  · unfold finishReading
    split <;> exact ⟨rfl, .inl rfl⟩
  · exact ⟨rfl, .inl rfl⟩
  · exact sparesExited_stop _ run
  · exact absurd rfl (hevent _)
  · split
    · exact sparesExited_stop _ run
    · exact ⟨rfl, .inl rfl⟩
  · exact ⟨rfl, .inl rfl⟩
  · split
    · exact sparesExited_stop _ run
    · exact ⟨rfl, .inl rfl⟩
  · exact ⟨rfl, .inl rfl⟩

end Run

namespace Course

variable {reports : Bool} {duration : Scalar} {events : List Event} {run : Run}

theorem stands (h : Course reports duration events run) : run.Stands duration events := by
  induction h with
  | start => exact Run.stands_start reports duration
  | step before awaited ih => exact Run.stands_step ih awaited

theorem exit_iff (h : Course reports duration events run) (code : Int) :
    run.exit = some code ↔ .exited code ∈ events := by
  induction h with
  | start => exact iff_of_false nofun nofun
  | @step events run event before awaited ih =>
      rw [List.mem_append, List.mem_singleton, ← ih]
      by_cases hexited : ∃ other, event = .exited other
      · obtain ⟨other, rfl⟩ := hexited
        have hnone : run.exit = none := awaited
        have hexit : (run.step (.exited other)).exit = some other := by
          simp only [Run.step, Run.exitWith]
          split <;> simp [hnone]
        rw [hexit, hnone]
        simp [eq_comm]
      · have hsame := (Run.sparesExited_step awaited fun other heq => hexited ⟨other, heq⟩).exit
        rw [hsame]
        exact (or_iff_left fun heq => hexited ⟨code, heq.symm⟩).symm

/-- A process was killed exactly if it had not exited by itself. -/
theorem killed_iff (h : Course reports duration events run) :
    (run.killed = true → ¬ ExitsByItself duration events) ∧
      (run.killed = false → run.exit ≠ none → ExitsByItself duration events) := by
  induction h with
  | start =>
      exact ⟨by rintro ⟨⟩, fun _ hexit => absurd rfl hexit⟩
  | @step events run event before awaited ih =>
      rw [exitsByItself_append]
      by_cases hexited : ∃ code, event = .exited code
      · obtain ⟨code, rfl⟩ := hexited
        have hnone : run.exit = none := awaited
        have hkilled : (run.step (.exited code)).killed = run.killed := by
          simp only [Run.step, Run.exitWith]
          split <;> rfl
        rw [hkilled]
        -- a run that still waits for an exit watches its process, or has killed it
        cases before.stands with
        | watching watches =>
            rw [watches.alive]
            exact ⟨by rintro ⟨⟩, fun _ _ => .inr ⟨⟨code, rfl⟩, watches.uninterrupted⟩⟩
        | reaping decides stage exit killed =>
            rw [killed]
            refine ⟨fun _ => ?_, by rintro ⟨⟩⟩
            rintro (hself | ⟨-, huninterrupted⟩)
            · exact ih.1 killed hself
            · exact huninterrupted _ decides.occurs
        | interrupted decides stage exit => exact absurd hnone exit
        | complete uninterrupted stage exit ended =>
            rw [hnone] at exit
            cases exit
      · have hspares := Run.sparesExited_step awaited fun code heq => hexited ⟨code, heq⟩
        rw [or_iff_left fun hnow => hexited hnow.1, hspares.exit]
        rcases hspares.killed with hsame | hnone
        · rw [hsame]
          exact ih
        · refine ⟨fun _ => ?_, fun _ hexit => absurd hnone hexit⟩
          rintro ⟨earlier, code, later, rfl, -⟩
          have hexit := (before.exit_iff code).mpr (by simp)
          rw [hnone] at hexit
          cases hexit

end Course

/-! ## Endings -/

/-- Whether a verdict is a failure of this kind, with this exit code. -/
def Verdict.IsFailure (kind : FailureKind) (exitCode : Option Int) : Verdict → Prop
  | .failed (.failed failure) => failure.kind = kind ∧ failure.exitCode = exitCode
  | _ => False

theorem Verdict.not_isFailure_of_isForeign {fault : Fault} (h : fault.IsForeign)
    (kind : FailureKind) (exitCode : Option Int) :
    ¬ (Verdict.failed fault).IsFailure kind exitCode := by
  cases fault with
  | failed failure => exact absurd rfl (h failure)
  | _ => exact id

/-- An exit code says that the engine failed exactly if it is not zero. -/
theorem Run.isFailure_exitVerdict (code : Int) (tail : List Char) (kind : FailureKind)
    (exitCode : Option Int) :
    (exitVerdict code tail).IsFailure kind exitCode ↔
      code ≠ 0 ∧ kind = .engine ∧ exitCode = some code := by
  unfold exitVerdict
  split
  next hzero => exact iff_of_false id fun hall => hall.1 hzero
  next hcode =>
    show (FailureKind.engine = kind ∧ some code = exitCode) ↔ _
    constructor
    · rintro ⟨rfl, rfl⟩
      exact ⟨hcode, rfl, rfl⟩
    · rintro ⟨-, rfl, rfl⟩
      exact ⟨rfl, rfl⟩

theorem Run.exitVerdict_eq_finished_iff {code : Int} {tail : List Char} :
    exitVerdict code tail = .finished ↔ code = 0 := by
  unfold exitVerdict
  split <;> simp_all

namespace Course

variable {reports : Bool} {duration : Scalar} {events : List Event} {run : Run} {verdict : Verdict}

/-- A run is over exactly if its process has exited and it has read the whole stream or was
    interrupted. -/
theorem ended_iff (h : Course reports duration events run) :
    (∃ verdict, run.stage = .ended verdict) ↔
      (∃ code, .exited code ∈ events) ∧
        (.endOfStream ∈ events ∨ ¬ Uninterrupted duration events) := by
  have hexits : (∃ code, .exited code ∈ events) ↔ run.exit ≠ none := by
    simp only [← h.exit_iff, Option.ne_none_iff_exists']
  rw [hexits]
  cases h.stands with
  | watching watches =>
      refine iff_of_false ?_ ?_
      · rintro ⟨verdict, hstage⟩
        exact (watches.ne_over verdict).2 hstage
      · rintro ⟨hexit, hended | hinterrupted⟩
        · exact hexit (watches.waits (watches.ended.mp hended))
        · exact hinterrupted watches.uninterrupted
  | reaping decides stage exit killed =>
      refine iff_of_false ?_ fun hall => hall.1 exit
      rintro ⟨verdict, hstage⟩
      rw [stage] at hstage
      cases hstage
  | interrupted decides stage exit =>
      exact iff_of_true ⟨_, stage⟩ ⟨exit, .inr fun hall => hall _ decides.occurs⟩
  | complete uninterrupted stage exit ended =>
      exact iff_of_true ⟨_, stage⟩ ⟨by simp [exit], .inl ended⟩

/-- A run comes to what interrupted it, or else to what its process came to. -/
theorem verdict_cases (h : Course reports duration events run)
    (hend : run.stage = .ended verdict) :
    (∃ interruption : Interruption,
        interruption.Decides duration events ∧ verdict = interruption.verdict) ∨
      Uninterrupted duration events ∧ ∃ code, run.exit = some code ∧
        verdict = Run.exitVerdict code run.tail := by
  cases h.stands with
  | watching watches => exact absurd hend (watches.ne_over verdict).2
  | reaping decides stage exit killed =>
      rw [hend] at stage
      cases stage
  | interrupted decides stage exit =>
      exact .inl ⟨_, decides, Stage.ended.inj (hend.symm.trans stage)⟩
  | complete uninterrupted stage exit ended =>
      exact .inr ⟨uninterrupted, _, exit, Stage.ended.inj (hend.symm.trans stage)⟩

/-- A run fails as it was interrupted, or as its exit code says. -/
theorem isFailure_iff (h : Course reports duration events run) (hend : run.stage = .ended verdict)
    (kind : FailureKind) (exitCode : Option Int) :
    verdict.IsFailure kind exitCode ↔
      (∃ interruption : Interruption, interruption.Occurs duration events ∧
        interruption.verdict.IsFailure kind exitCode) ∨
      Uninterrupted duration events ∧ ∃ code, .exited code ∈ events ∧
        code ≠ 0 ∧ kind = .engine ∧ exitCode = some code := by
  rcases h.verdict_cases hend with ⟨interruption, decides, rfl⟩ | ⟨huninterrupted, code, hexit, rfl⟩
  · constructor
    · exact fun hfails => .inl ⟨interruption, decides.occurs, hfails⟩
    · rintro (⟨other, hother, hfails⟩ | ⟨hnone, -⟩)
      · rwa [decides.only other hother] at hfails
      · exact absurd decides.occurs (hnone interruption)
  · rw [Run.isFailure_exitVerdict]
    constructor
    · exact fun hfails => .inr ⟨huninterrupted, code, (h.exit_iff code).mp hexit, hfails⟩
    · rintro (⟨other, hother, -⟩ | ⟨-, other, hother, hfails⟩)
      · exact absurd hother (huninterrupted other)
      · have hsame := (h.exit_iff other).mpr hother
        rw [hexit, Option.some.injEq] at hsame
        rwa [hsame]

/-- A run that is interrupted fails as its deadline says, or as the receiver of a report does. -/
theorem isFailure_interruption (kind : FailureKind) (exitCode : Option Int) :
    (∃ interruption : Interruption, interruption.Occurs duration events ∧
      interruption.verdict.IsFailure kind exitCode) ↔
      ((∃ timeout, .deadline timeout ∈ events) ∧ kind = .timeout ∧ exitCode = none) ∨
      ∃ fault, .reportFailed fault ∈ events ∧ (Verdict.failed fault).IsFailure kind exitCode := by
  constructor
  · rintro ⟨interruption, hoccurs, hfails⟩
    cases interruption with
    | deadline timeout =>
        obtain ⟨hkind, hcode⟩ : FailureKind.timeout = kind ∧ none = exitCode := hfails
        exact .inl ⟨⟨timeout, hoccurs⟩, hkind.symm, hcode.symm⟩
    | cancelled => exact hfails.elim
    | reportFailed fault => exact .inr ⟨fault, hoccurs, hfails⟩
    | unreadable fault =>
        have hforeign := Meter.isForeign_of_feedAll hoccurs
        exact absurd hfails (Verdict.not_isFailure_of_isForeign hforeign kind exitCode)
  · rintro (⟨⟨timeout, hmem⟩, rfl, rfl⟩ | ⟨fault, hmem, hfails⟩)
    · exact ⟨.deadline timeout, hmem, rfl, rfl⟩
    · exact ⟨.reportFailed fault, hmem, hfails⟩

end Course

/-- A run of the engine is over only when its process has exited, and its process was killed
    exactly if it did not exit by itself.  A run finishes exactly if the process exits with code
    zero and nothing interrupts the run before; it runs out of time exactly if the deadline
    strikes before, and fails with an exit code exactly if that is not zero and nothing
    interrupts the run before, unless such a failure is what the receiver of a report fails
    with.  Whatever else interrupts a run is what the run comes to. -/
theorem course_outcome {reports : Bool} {duration : Scalar} {events : List Event} {run : Run}
    (h : Course reports duration events run) :
    ((∃ verdict, run.stage = .ended verdict) ↔
      (∃ code, .exited code ∈ events) ∧
        (.endOfStream ∈ events ∨ ¬ Uninterrupted duration events)) ∧
    ∀ verdict, run.stage = .ended verdict →
      (∃ code, run.exit = some code ∧ .exited code ∈ events) ∧
      (run.killed = true ↔ ¬ ExitsByItself duration events) ∧
      (verdict = .finished ↔ .exited 0 ∈ events ∧ Uninterrupted duration events) ∧
      (verdict.IsFailure .timeout none ↔
        (∃ timeout, .deadline timeout ∈ events) ∨
        ∃ fault, .reportFailed fault ∈ events ∧ (Verdict.failed fault).IsFailure .timeout none) ∧
      (∀ code, verdict.IsFailure .engine (some code) ↔
        (.exited code ∈ events ∧ code ≠ 0 ∧ Uninterrupted duration events) ∨
        ∃ fault, .reportFailed fault ∈ events ∧
          (Verdict.failed fault).IsFailure .engine (some code)) ∧
      ∀ interruption : Interruption, interruption.Occurs duration events →
        verdict = interruption.verdict := by
  refine ⟨h.ended_iff, fun verdict hend => ?_⟩
  obtain ⟨⟨code, hcode⟩, -⟩ := h.ended_iff.mp ⟨verdict, hend⟩
  have hexit := (h.exit_iff code).mpr hcode
  have honly : ∀ other, .exited other ∈ events → other = code := by
    intro other hother
    have hsame := (h.exit_iff other).mpr hother
    rw [hexit] at hsame
    exact (Option.some.inj hsame).symm
  refine ⟨⟨code, hexit, hcode⟩, ?_, ?_, ?_, fun other => ?_, fun interruption hoccurs => ?_⟩
  · constructor
    · exact h.killed_iff.1
    · intro hself
      refine Bool.eq_true_of_not_eq_false fun halive => hself (h.killed_iff.2 halive ?_)
      rw [hexit]
      nofun
  · rcases h.verdict_cases hend with ⟨interruption, decides, rfl⟩ | ⟨hnone, last, hlast, rfl⟩
    · refine iff_of_false ?_ fun hall => hall.2 interruption decides.occurs
      cases interruption <;> nofun
    · rw [hexit, Option.some.injEq] at hlast
      subst hlast
      rw [Run.exitVerdict_eq_finished_iff]
      constructor
      · rintro rfl
        exact ⟨hcode, hnone⟩
      · exact fun hall => (honly 0 hall.1).symm
  · rw [h.isFailure_iff hend, Course.isFailure_interruption]
    simp
  · rw [h.isFailure_iff hend, Course.isFailure_interruption]
    constructor
    · rintro ((⟨-, hkind, -⟩ | hreport) | ⟨hnone, last, hlast, hfails, -, hsame⟩)
      · cases hkind
      · exact .inr hreport
      · obtain rfl := Option.some.inj hsame
        exact .inl ⟨hlast, hfails, hnone⟩
    · rintro (⟨hother, hfails, hnone⟩ | hreport)
      · exact .inr ⟨hnone, other, hother, hfails, rfl, rfl⟩
      · exact .inl (.inr hreport)
  · rcases h.verdict_cases hend with ⟨other, decides, rfl⟩ | ⟨hnone, -⟩
    · rw [decides.only interruption hoccurs]
    · exact absurd hoccurs (hnone interruption)

/-- The deadline strikes while a report is on its way, and the process ends when it is killed. -/
def sampleOverrun : List Event :=
  [.chunk (asciiOutput "frame=45 time=00:00:01.50 bitrate=1\r"), .deadline (.ofNat 2),
   .exited (-9)]

theorem course_outcome_sampleOverrun : ∃ run,
    Course true (.int 3) sampleOverrun run ∧
      run.stage = .ended (.failed (.failed (timeoutFailure (.ofNat 2)))) ∧
      run.exit = some (-9) ∧ run.killed = true ∧ ¬ ExitsByItself (.int 3) sampleOverrun := by
  have hreported : ∃ run, Course true (.int 3) (sampleOverrun.take 1) run ∧
      run.stage = .reporting 50 ∧ run.exit = none :=
    ⟨_, .step .start rfl, by decide +kernel, by decide +kernel⟩
  obtain ⟨first, hfirst, hreporting, hrunning⟩ := hreported
  have hstoppable : first.isStoppable = true := by rw [Run.isStoppable, hreporting]
  have hsecond : Course true (.int 3) (sampleOverrun.take 2) (first.step (.deadline (.ofNat 2))) :=
    .step hfirst hstoppable
  have hstopped : first.step (.deadline (.ofNat 2)) =
      { first with
        stage := .reaping (.failed (.failed (timeoutFailure (.ofNat 2)))), killed := true } := by
    simp only [Run.step, hstoppable, if_true, Run.stop, hrunning]
  rw [hstopped] at hsecond
  have hthird : Course true (.int 3) sampleOverrun _ := .step hsecond hrunning
  have houtcome := (course_outcome hthird).2 _ rfl
  refine ⟨_, hthird, rfl, ?_, rfl, houtcome.2.1.mp rfl⟩
  simp [Run.step, Run.exitWith, hrunning]

end Montage.Engine
