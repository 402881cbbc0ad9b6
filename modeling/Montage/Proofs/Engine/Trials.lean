/-
  Montage.Proofs.Engine.Trials

  Runs of processes that follow a script.  Whatever the script, the reports and the deadline,
  what happens in virtual time is a course of events.  It ends, unless the stream of the process
  never does and nothing strikes: every event leaves fewer of them.
-/
import Montage.Engine.Process
import Montage.Proofs.Engine.Endings

namespace Montage.Engine

open Montage.Number

/-! ## Events that are due -/

/-- How many reads a process has in store, with the one that is due. -/
def Source.readsLeft (source : Source) : Nat :=
  match source.due with
  | some (_, .chunk _) => source.reads.length + 1
  | _ => source.reads.length

theorem Source.readsLeft_le (source : Source) : source.readsLeft ≤ source.reads.length + 1 := by
  unfold readsLeft
  split <;> omega

/-- How many events a run may still see at a stage, if so many reads are left. -/
def Stage.eventsLeft (reads : Nat) : Stage → Nat
  | .reading => 2 * reads + 3
  | .reporting _ => 2 * reads + 4
  | .exiting => 2
  | .reaping _ => 1
  | .ended _ => 0

theorem Stage.eventsLeft_eq_zero {reads : Nat} {stage : Stage} :
    stage.eventsLeft reads = 0 ↔ ∃ verdict, stage = .ended verdict := by
  cases stage <;> simp [eventsLeft]

namespace Source

theorem readsLeft_of_chunk {source : Source} {time : Binary64} {bytes : List UInt8}
    (h : source.due = some (time, .chunk bytes)) :
    source.readsLeft = source.reads.length + 1 := by
  rw [readsLeft, h]

theorem script_plan (now : Binary64) (stage : Stage) (source : Source) :
    (source.plan now stage).script = source.script := by
  unfold plan
  split <;> try rfl
  split <;> rfl

/-- To plan the next event takes no read away. -/
theorem eventsLeft_plan (now : Binary64) (stage : Stage) (source : Source) :
    stage.eventsLeft (source.plan now stage).readsLeft = stage.eventsLeft source.reads.length := by
  cases stage with
  | reading =>
      unfold plan
      dsimp only
      split
      next piece rest hreads => simp [readsLeft, hreads]
      next hreads =>
        cases source.script.hangs <;> simp [readsLeft, hreads]
  | _ => rfl

/-- What a process does next at each stage. -/
theorem due_plan_cases {now : Binary64} {stage : Stage} {source : Source} {time : Binary64}
    {event : Event} (h : (source.plan now stage).due = some (time, event)) :
    (∃ bytes, stage = .reading ∧ event = .chunk bytes) ∨
      (stage = .reading ∧ event = .endOfStream) ∨
      ∃ code, event = .exited code ∧ (stage = .exiting ∨ ∃ verdict, stage = .reaping verdict) := by
  unfold plan at h
  split at h
  next =>
    split at h
    next piece rest hreads =>
      obtain ⟨-, rfl⟩ := Prod.mk.inj (Option.some.inj h)
      exact .inl ⟨piece.bytes, rfl, rfl⟩
    next =>
      dsimp only at h
      split at h
      next => cases h
      next =>
        obtain ⟨-, rfl⟩ := Prod.mk.inj (Option.some.inj h)
        exact .inr (.inl ⟨rfl, rfl⟩)
  next =>
    obtain ⟨-, rfl⟩ := Prod.mk.inj (Option.some.inj h)
    exact .inr (.inr ⟨_, rfl, .inl rfl⟩)
  next verdict =>
    obtain ⟨-, rfl⟩ := Prod.mk.inj (Option.some.inj h)
    exact .inr (.inr ⟨_, rfl, .inr ⟨verdict, rfl⟩⟩)
  next => cases h
  next => cases h

/-- A process does nothing more only if its stream never ends, or its run waits for no event. -/
theorem due_plan_eq_none {now : Binary64} {stage : Stage} {source : Source}
    (h : (source.plan now stage).due = none) :
    stage = .reading ∧ source.script.hangs = true ∨ (∃ progress, stage = .reporting progress) ∨
      ∃ verdict, stage = .ended verdict := by
  unfold plan at h
  split at h
  next =>
    split at h
    next => cases h
    next =>
      dsimp only at h
      split at h
      next hhangs => exact .inl ⟨rfl, hhangs⟩
      next => cases h
  next => cases h
  next => cases h
  next progress => exact .inr (.inl ⟨progress, rfl⟩)
  next verdict => exact .inr (.inr ⟨verdict, rfl⟩)

/-- What comes next is what the process does next, or the deadline, unless the process is
    already killed. -/
theorem next?_eq_some {source : Source} {deadline : Option Deadline} {stage : Stage}
    {time : Binary64} {event : Event} (h : source.next? deadline stage = some (time, event)) :
    source.due = some (time, event) ∨
      (∀ verdict, stage ≠ .reaping verdict) ∧ ∃ timeout, event = .deadline timeout := by
  by_cases hreaping : ∃ verdict, stage = .reaping verdict
  · obtain ⟨verdict, rfl⟩ := hreaping
    exact .inl h
  · have hnot : ∀ verdict, stage ≠ .reaping verdict := fun verdict heq => hreaping ⟨verdict, heq⟩
    unfold next? at h
    split at h
    next => exact .inl h
    next => exact .inl h
    next =>
      obtain ⟨-, rfl⟩ := Prod.mk.inj (Option.some.inj h)
      exact .inr ⟨hnot, _, rfl⟩
    next hdue =>
      split at h
      next =>
        obtain ⟨-, rfl⟩ := Prod.mk.inj (Option.some.inj h)
        exact .inr ⟨hnot, _, rfl⟩
      next => exact .inl (hdue.trans h)

theorem next?_eq_none {source : Source} {deadline : Option Deadline} {stage : Stage}
    (h : source.next? deadline stage = none) :
    source.due = none ∧ (deadline = none ∨ ∃ verdict, stage = .reaping verdict) := by
  unfold next? at h
  split at h
  next verdict _ _ => exact ⟨h, .inr ⟨_, rfl⟩⟩
  next => exact ⟨h, .inl rfl⟩
  next => cases h
  next =>
    split at h <;> cases h

end Source

/-- Whether what a process does next was planned for the stage of its run. -/
def Trial.IsPlanned (trial : Trial) : Prop :=
  ∃ now source, trial.source = Source.plan now trial.run.stage source

def Trial.eventsLeft (trial : Trial) : Nat :=
  trial.run.stage.eventsLeft trial.source.readsLeft

theorem Trial.isPlanned_handle (time : Binary64) (event : Event) (trial : Trial) :
    (trial.handle time event).IsPlanned :=
  ⟨_, trial.source, rfl⟩

theorem Trial.eventsLeft_handle (time : Binary64) (event : Event) (trial : Trial) :
    (trial.handle time event).eventsLeft =
      (trial.run.step event).stage.eventsLeft trial.source.reads.length :=
  Source.eventsLeft_plan _ _ _

/-! ## Stages after an event -/

namespace Run

theorem eventsLeft_stop (verdict : Verdict) (run : Run) (reads : Nat) :
    (run.stop verdict).stage.eventsLeft reads ≤ 1 := by
  unfold stop
  split <;> simp [Stage.eventsLeft]

theorem eventsLeft_readChunk {run : Run} (hreading : run.stage = .reading) (bytes : List UInt8)
    (reads : Nat) : (run.readChunk bytes).stage.eventsLeft reads ≤ 2 * reads + 4 := by
  unfold readChunk
  dsimp only
  split
  next => exact (eventsLeft_stop _ _ reads).trans (by omega)
  next => simp [hreading, Stage.eventsLeft]
  next =>
    dsimp only
    split <;> simp [Stage.eventsLeft]

theorem eventsLeft_finishReading (run : Run) (reads : Nat) :
    run.finishReading.stage.eventsLeft reads ≤ 2 := by
  unfold finishReading
  split <;> simp [Stage.eventsLeft]

theorem eventsLeft_deadline {run : Run} (hstoppable : run.isStoppable = true) (timeout : Binary64)
    (reads : Nat) : (run.step (.deadline timeout)).stage.eventsLeft reads ≤ 1 := by
  simp only [step, if_pos hstoppable]
  exact eventsLeft_stop _ run reads

theorem one_lt_eventsLeft {run : Run} (hstoppable : run.isStoppable = true) (reads : Nat) :
    1 < run.stage.eventsLeft reads := by
  unfold isStoppable at hstoppable
  split at hstoppable
  next hstage => simp [hstage, Stage.eventsLeft]
  next hstage => simp [hstage, Stage.eventsLeft]
  next hstage => simp [hstage, Stage.eventsLeft]
  next => cases hstoppable
  next => cases hstoppable

end Run

/-! ## One event -/

namespace Course

variable {reports : Bool} {duration : Scalar} {events : List Event} {run : Run}

/-- A process whose exit a run waits for has not exited. -/
theorem exit_eq_none (h : Course reports duration events run)
    (hstage : run.stage = .exiting ∨ ∃ verdict, run.stage = .reaping verdict) :
    run.exit = none := by
  cases h.stands with
  | watching watches =>
      rcases hstage with hexiting | ⟨verdict, hreaping⟩
      · exact watches.waits hexiting
      · exact absurd hreaping (watches.ne_over verdict).1
  | reaping decides stage exit killed => exact exit
  | interrupted decides stage exit => simp [stage] at hstage
  | complete uninterrupted stage exit ended => simp [stage] at hstage

end Course

namespace Trial

variable {reports : Bool} {duration : Scalar} {events : List Event} {trial : Trial}

/-- What a process does next is what its run waits for, and leaves fewer events. -/
theorem due_cases (hcourse : Course reports duration events trial.run)
    (hplanned : trial.IsPlanned) {time : Binary64} {event : Event}
    (hdue : trial.source.due = some (time, event)) :
    trial.run.Awaits event ∧ (trial.handle time event).eventsLeft < trial.eventsLeft := by
  obtain ⟨now, source, hsource⟩ := hplanned
  rw [eventsLeft_handle, eventsLeft]
  rcases Source.due_plan_cases (hsource ▸ hdue) with
    ⟨bytes, hreading, rfl⟩ | ⟨hreading, rfl⟩ | ⟨code, rfl, hwaits⟩
  · refine ⟨hreading, ?_⟩
    have hleft := Run.eventsLeft_readChunk hreading bytes trial.source.reads.length
    rw [Source.readsLeft_of_chunk hdue, hreading]
    simp only [Run.step, hreading]
    show _ < 2 * (trial.source.reads.length + 1) + 3
    exact hleft.trans_lt (by omega)
  · refine ⟨hreading, ?_⟩
    have hleft := trial.run.eventsLeft_finishReading trial.source.reads.length
    rw [hreading]
    simp only [Run.step, hreading]
    show _ < 2 * trial.source.readsLeft + 3
    exact hleft.trans_lt (by omega)
  · refine ⟨hcourse.exit_eq_none hwaits, ?_⟩
    rcases hwaits with hexiting | ⟨verdict, hreaping⟩
    · simp [Run.step, Run.exitWith, hexiting, Stage.eventsLeft]
    · simp [Run.step, Run.exitWith, hreaping, Stage.eventsLeft]

/-- The next event is one that the run waits for, and leaves fewer of them. -/
theorem next?_cases (hcourse : Course reports duration events trial.run)
    (hplanned : trial.IsPlanned) {deadline : Option Deadline}
    (hopen : ∀ verdict, trial.run.stage ≠ .ended verdict) {time : Binary64} {event : Event}
    (hnext : trial.source.next? deadline trial.run.stage = some (time, event)) :
    trial.run.Awaits event ∧ (trial.handle time event).eventsLeft < trial.eventsLeft := by
  rcases Source.next?_eq_some hnext with hdue | ⟨hnot, timeout, rfl⟩
  · exact due_cases hcourse hplanned hdue
  · have hstoppable : trial.run.isStoppable = true := by
      cases hstage : trial.run.stage with
      | reaping verdict => exact absurd hstage (hnot verdict)
      | ended verdict => exact absurd hstage (hopen verdict)
      | _ => simp [Run.isStoppable, hstage]
    refine ⟨hstoppable, ?_⟩
    have hleft := Run.eventsLeft_deadline hstoppable timeout trial.source.reads.length
    rw [eventsLeft_handle, eventsLeft]
    exact hleft.trans_lt (Run.one_lt_eventsLeft hstoppable _)

/-- The receiver of a report answers, which leaves fewer events. -/
theorem reporting_cases (hplanned : trial.IsPlanned) {progress : Int}
    (hreporting : trial.run.stage = .reporting progress) {event : Event}
    (hevent : event = .reported ∨ ∃ fault, event = .reportFailed fault) (time : Binary64) :
    trial.run.Awaits event ∧ (trial.handle time event).eventsLeft < trial.eventsLeft := by
  obtain ⟨now, source, hsource⟩ := hplanned
  rw [hreporting, Source.plan] at hsource
  rw [eventsLeft_handle, eventsLeft, hreporting, hsource]
  show _ ∧ _ < 2 * source.reads.length + 4
  rcases hevent with rfl | ⟨fault, rfl⟩
  · refine ⟨⟨progress, hreporting⟩, ?_⟩
    simp only [Run.step, hreporting]
    show 2 * source.reads.length + 3 < _
    omega
  · refine ⟨⟨progress, hreporting⟩, ?_⟩
    simp only [Run.step, hreporting]
    exact (Run.eventsLeft_stop _ _ _).trans_lt (by omega)

/-- Nothing comes next only for a run whose stream never ends, if nothing strikes. -/
theorem hangs_of_next?_eq_none (hplanned : trial.IsPlanned) {deadline : Option Deadline}
    (hopen : ∀ verdict, trial.run.stage ≠ .ended verdict)
    (hreports : ∀ progress, trial.run.stage ≠ .reporting progress)
    (hnext : trial.source.next? deadline trial.run.stage = none) :
    deadline = none ∧ trial.source.script.hangs = true := by
  obtain ⟨now, source, hsource⟩ := hplanned
  obtain ⟨hdue, hdeadline⟩ := Source.next?_eq_none hnext
  rw [hsource] at hdue ⊢
  rw [Source.script_plan]
  rcases Source.due_plan_eq_none hdue with
    ⟨hreading, hhangs⟩ | ⟨progress, hstage⟩ | ⟨verdict, hstage⟩
  · refine ⟨hdeadline.resolve_right ?_, hhangs⟩
    rintro ⟨verdict, hreaping⟩
    rw [hreading] at hreaping
    cases hreaping
  · exact absurd hstage (hreports progress)
  · exact absurd hstage (hopen verdict)

/-- A run that is continued is a course of events, which ends if there is enough fuel, unless its
    stream never ends and nothing strikes. -/
theorem exists_course_finish (failsAt : Option Nat) (deadline : Option Deadline) (fuel : Nat)
    (hcourse : Course reports duration events trial.run) (hplanned : trial.IsPlanned) :
    ∃ later, Course reports duration (events ++ later) (finish failsAt deadline fuel trial).run ∧
      (trial.eventsLeft ≤ fuel → deadline ≠ none ∨ trial.source.script.hangs = false →
        ∃ verdict, (finish failsAt deadline fuel trial).run.stage = .ended verdict) := by
  induction fuel generalizing trial events with
  | zero =>
      refine ⟨[], by simpa [finish] using hcourse, fun hfuel _ => ?_⟩
      exact Stage.eventsLeft_eq_zero.mp (Nat.le_zero.mp hfuel)
  | succ fuel ih =>
      -- one event, and then what follows it
      have hstep : ∀ event (next : Trial), trial.run.Awaits event →
          next.run = trial.run.step event → next.IsPlanned →
          next.source.script = trial.source.script → next.eventsLeft < trial.eventsLeft →
          ∃ later, Course reports duration (events ++ later)
              (finish failsAt deadline fuel next).run ∧
            (trial.eventsLeft ≤ fuel + 1 → deadline ≠ none ∨ trial.source.script.hangs = false →
              ∃ verdict, (finish failsAt deadline fuel next).run.stage = .ended verdict) := by
        intro event next hawaits hrun hplanned hscript hless
        have hcourse' : Course reports duration (events ++ [event]) next.run :=
          hrun ▸ .step hcourse hawaits
        obtain ⟨later, hlater, hends⟩ := ih hcourse' hplanned
        refine ⟨event :: later, by simpa using hlater, fun hfuel hcondition => ?_⟩
        exact hends (by omega) (hscript ▸ hcondition)
      rw [finish]
      split
      next verdict hended => exact ⟨[], by simpa using hcourse, fun _ _ => ⟨verdict, hended⟩⟩
      next progress hreporting =>
        dsimp only
        generalize hevent : (if failsAt = some (trial.progress ++ [progress]).length then
          Event.reportFailed (.callback "callback failed") else .reported) = event
        have hanswer : event = .reported ∨ ∃ fault, event = .reportFailed fault := by
          rw [← hevent]
          split
          next => exact .inr ⟨_, rfl⟩
          next => exact .inl rfl
        have hplanned' : { trial with progress := trial.progress ++ [progress] }.IsPlanned :=
          hplanned
        obtain ⟨hawaits, hless⟩ := reporting_cases hplanned' hreporting hanswer trial.now
        exact hstep event _ hawaits rfl (isPlanned_handle _ _ _) (Source.script_plan _ _ _) hless
      next stage hopen hreports =>
        split
        next hnone =>
          refine ⟨[], by simpa using hcourse, fun _ hcondition => ?_⟩
          obtain ⟨hdeadline, hhangs⟩ := hangs_of_next?_eq_none hplanned hopen hreports hnone
          simp [hdeadline, hhangs] at hcondition
        next time event hsome =>
          obtain ⟨hawaits, hless⟩ := next?_cases hcourse hplanned hopen hsome
          exact hstep event _ hawaits rfl (isPlanned_handle _ _ _) (Source.script_plan _ _ _) hless

end Trial

/-- Every run of a process that follows a script is a course of events, and ends, unless the
    stream of the process never does and there is no deadline. -/
theorem exists_course_trial (script : Script) (reports : Bool) (failsAt : Option Nat)
    (timeout : Option Binary64) (duration : Scalar) :
    ∃ events, Course reports duration events
        (trial script reports failsAt timeout duration).run ∧
      (timeout ≠ none ∨ script.hangs = false →
        ∃ verdict, (trial script reports failsAt timeout duration).run.stage = .ended verdict) := by
  have hplanned : Trial.IsPlanned
      ⟨.start reports duration, Source.start .zero script, .zero, []⟩ := ⟨_, _, rfl⟩
  have hfuel : Trial.eventsLeft ⟨.start reports duration, Source.start .zero script, .zero, []⟩ ≤
      4 * (Source.start .zero script).reads.length + 12 := by
    have hreads := (Source.start .zero script).readsLeft_le
    show 2 * (Source.start .zero script).readsLeft + 3 ≤ _
    omega
  obtain ⟨events, hcourse, hends⟩ := Trial.exists_course_finish failsAt
    (timeout.map (Deadline.start .zero)) (4 * (Source.start .zero script).reads.length + 12)
    (.start) hplanned
  refine ⟨events, hcourse, fun hcondition => hends hfuel ?_⟩
  have hscript : (Source.start .zero script).script = script := Source.script_plan _ _ _
  rw [hscript]
  exact hcondition.imp (fun hsome => by simpa using hsome) id

end Montage.Engine
