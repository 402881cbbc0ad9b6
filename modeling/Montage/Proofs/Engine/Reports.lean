/-
  Montage.Proofs.Engine.Reports

  What a run of the engine tells: progress between 0 and 99 percent, failures that have
  a code, and an exit code of zero if the output is complete.
-/
import Montage.Engine.Run
import Montage.Proofs.Fault

namespace Montage.Progress

open Montage.Number

/-! ## Progress -/

theorem percent_bounds {elapsed duration : Scalar} {progress : Int}
    (h : percent elapsed duration = .ok progress) : 0 ≤ progress ∧ progress ≤ 99 := by
  unfold percent at h
  split at h
  · cases h
    decide
  · obtain ⟨product, -, h⟩ := exists_of_bind_eq_ok h
    obtain ⟨quotient, -, h⟩ := exists_of_bind_eq_ok h
    obtain ⟨rounded, -, h⟩ := exists_of_bind_eq_ok h
    obtain rfl := Except.ok.inj h
    have hmost : maxRunning = 99 := rfl
    omega

theorem isForeign_of_mapError {α : Type} {result : Except ArithmeticError α} {fault : Fault}
    (h : result.mapError Fault.arithmetic = .error fault) : fault.IsForeign := by
  cases result with
  | error error =>
      cases h
      nofun
  | ok a => cases h

theorem isForeign_of_elapsed? {text : List Char} {fault : Fault}
    (h : elapsed? text = .error fault) : fault.IsForeign := by
  unfold elapsed? at h
  split at h
  · cases h
  · rename_i token _
    cases helapsed : token.elapsed with
    | ok time =>
        rw [helapsed] at h
        cases h
    | error raised =>
        rw [helapsed] at h
        cases h
        rcases error_of_bind_eq_error helapsed with hhours | ⟨hours, -, hstart⟩
        · unfold Token.hourCount at hhours
          split at hhours
          · cases hhours
            nofun
          · cases hhours
        · rcases error_of_bind_eq_error hstart with hwhole | ⟨start, -, hend⟩
          · exact isForeign_of_mapError hwhole
          · cases hend

namespace Meter

variable {piece : List Char} {meter next : Meter}

/-- A meter that cannot read its output raises no failure of a job. -/
theorem isForeign_of_feed {fault : Fault} (h : meter.feed piece = .error fault) :
    fault.IsForeign := by
  rcases error_of_bind_eq_error h with helapsed | ⟨elapsed, -, hrest⟩
  · exact isForeign_of_elapsed? helapsed
  · cases elapsed with
    | none => cases hrest
    | some time =>
        rcases error_of_bind_eq_error hrest with hpercent | ⟨progress, -, hend⟩
        · exact isForeign_of_mapError hpercent
        · dsimp only at hend
          split at hend <;> cases hend

theorem bounds_of_feed {progress : Int} (h : meter.feed piece = .ok (some progress, next)) :
    0 ≤ progress ∧ progress ≤ 99 := by
  obtain ⟨elapsed, -, hrest⟩ := exists_of_bind_eq_ok h
  cases elapsed with
  | none => cases hrest
  | some time =>
      obtain ⟨shown, hpercent, hend⟩ := exists_of_bind_eq_ok hrest
      have hbounds : 0 ≤ shown ∧ shown ≤ 99 := by
        cases hvalue : percent (.real time) meter.duration with
        | error error =>
            rw [hvalue] at hpercent
            cases hpercent
        | ok value =>
            rw [hvalue] at hpercent
            cases hpercent
            exact percent_bounds hvalue
      dsimp only at hend
      split at hend
      · cases hend
      · cases hend
        exact hbounds

end Meter

end Montage.Progress

namespace Montage.Engine

open Montage.Progress

/-! ## Runs -/

/-- How a run may end: a failure has a code. -/
def Verdict.HasCode : Verdict → Prop
  | .failed fault => fault.HasCode
  | _ => True

/-- What a run may tell at its stage. -/
def Stage.Sound : Stage → Prop
  | .reporting progress => 0 ≤ progress ∧ progress ≤ 99
  | .reaping verdict => verdict.HasCode
  | .ended verdict => verdict.HasCode
  | _ => True

/-- What a stage tells about the end of a run that nobody cancels, and about its exit. -/
def Stage.Orderly (exit : Option Int) : Stage → Prop
  | .exiting => exit = none
  | .reaping verdict => ∃ fault, verdict = .failed fault
  | .ended .finished => exit = some 0
  | .ended .cancelled => False
  | _ => True

/-- Whether a failure that an event tells of has a code. -/
def Event.HasCode : Event → Prop
  | .reportFailed fault => fault.HasCode
  | _ => True

/-! ## Faults of one sort -/

section

variable {sort : Fault → Prop}

/-- How a run may end that only has faults of one sort. -/
def Verdict.Raises (sort : Fault → Prop) : Verdict → Prop
  | .failed fault => sort fault
  | _ => True

/-- What a run may tell at its stage that only has faults of one sort. -/
def Stage.Tells (sort : Fault → Prop) : Stage → Prop
  | .reporting progress => 0 ≤ progress ∧ progress ≤ 99
  | .reaping verdict => verdict.Raises sort
  | .ended verdict => verdict.Raises sort
  | _ => True

/-- Whether an event tells of no fault but one of a sort. -/
def Event.Raises (sort : Fault → Prop) : Event → Prop
  | .reportFailed fault => sort fault
  | _ => True

/-- Whether the faults that a run has of itself are of a sort. -/
structure Owns (sort : Fault → Prop) : Prop where
  foreign : ∀ fault, fault.IsForeign → sort fault
  exit : ∀ code tail, sort (.failed (exitFailure code tail))
  timeout : ∀ timeout, sort (.failed (timeoutFailure timeout))

theorem owns_hasCode : Owns Fault.HasCode where
  foreign _ h := h.hasCode
  exit _ _ := Fault.hasCode_ofEngine _ _ _
  timeout _ := Fault.hasCode_ofEngine _ _ _

theorem owns_isLasting : Owns Fault.IsLasting where
  foreign _ h := h.isLasting
  exit _ _ := ⟨.engine, nofun, rfl⟩
  timeout _ := ⟨.timeout, nofun, rfl⟩

theorem Stage.sound_iff_tells {stage : Stage} : stage.Sound ↔ stage.Tells Fault.HasCode := by
  cases stage with
  | reaping verdict => cases verdict <;> exact Iff.rfl
  | ended verdict => cases verdict <;> exact Iff.rfl
  | _ => exact Iff.rfl

namespace Run

theorem raises_exitVerdict (h : Owns sort) (code : Int) (tail : List Char) :
    (exitVerdict code tail).Raises sort := by
  unfold exitVerdict
  split
  · exact trivial
  · exact h.exit code tail

theorem tells_stop {verdict : Verdict} (hverdict : verdict.Raises sort) (run : Run) :
    (run.stop verdict).stage.Tells sort := by
  unfold stop
  split <;> exact hverdict

theorem tells_readChunk (h : Owns sort) (bytes : List UInt8) {run : Run}
    (hreading : run.stage = .reading) : (run.readChunk bytes).stage.Tells sort := by
  unfold readChunk
  dsimp only
  split
  · rename_i fault hfeed
    apply tells_stop
    exact h.foreign fault (Meter.isForeign_of_feed hfeed)
  · rw [hreading]
    exact trivial
  · rename_i progress next hfeed
    split
    · exact Meter.bounds_of_feed hfeed
    · exact trivial

theorem tells_exitWith (h : Owns sort) (code : Int) {run : Run} (hrun : run.stage.Tells sort) :
    (run.exitWith code).stage.Tells sort := by
  unfold exitWith
  dsimp only
  split
  · exact raises_exitVerdict h code run.tail
  · rename_i verdict hstage
    rw [hstage] at hrun
    exact hrun
  · exact hrun

/-- Whatever happens to a run, it goes on telling what it may. -/
theorem tells_step (h : Owns sort) {run : Run} (hrun : run.stage.Tells sort) (event : Event)
    (hevent : event.Raises sort) : (run.step event).stage.Tells sort := by
  unfold step
  split
  · rename_i hstage
    exact tells_readChunk h _ hstage
  · unfold finishReading
    split
    · exact raises_exitVerdict h _ _
    · exact trivial
  · exact trivial
  · apply tells_stop
    exact hevent
  · exact tells_exitWith h _ hrun
  · split
    · apply tells_stop
      exact h.timeout _
    · exact hrun
  · exact trivial
  · split
    · apply tells_stop
      exact trivial
    · exact hrun
  · exact hrun

theorem sound_step {run : Run} (h : run.stage.Sound) (event : Event) (hevent : event.HasCode) :
    (run.step event).stage.Sound := by
  rw [Stage.sound_iff_tells] at h ⊢
  refine tells_step owns_hasCode h event ?_
  cases event <;> exact hevent

end Run

end

/-! ## Ends of runs -/

namespace Run

theorem orderly_stop (fault : Fault) (run : Run) :
    (run.stop (.failed fault)).stage.Orderly (run.stop (.failed fault)).exit := by
  unfold stop
  split
  · exact trivial
  · exact ⟨fault, rfl⟩

theorem orderly_readChunk (bytes : List UInt8) {run : Run} (hreading : run.stage = .reading) :
    (run.readChunk bytes).stage.Orderly (run.readChunk bytes).exit := by
  unfold readChunk
  dsimp only
  split
  · exact orderly_stop _ _
  · rw [hreading]
    exact trivial
  · split <;> exact trivial

/-- A code of zero is what makes an output complete. -/
theorem orderly_exitVerdict (code : Int) (tail : List Char) :
    (Stage.ended (exitVerdict code tail)).Orderly (some code) := by
  unfold exitVerdict
  split
  next hzero => exact congrArg some hzero
  next => exact trivial

theorem orderly_finishReading (run : Run) :
    run.finishReading.stage.Orderly run.finishReading.exit := by
  unfold finishReading
  split
  next code hexit =>
    rw [hexit]
    exact orderly_exitVerdict code run.tail
  next hexit => exact hexit

theorem orderly_exitWith (code : Int) {run : Run} (h : run.stage.Orderly run.exit) :
    (run.exitWith code).stage.Orderly (run.exitWith code).exit := by
  unfold exitWith
  dsimp only
  cases hstage : run.stage with
  | reading => exact trivial
  | reporting progress => exact trivial
  | exiting =>
      -- the exit is what was waited for, so there was no code before
      rw [hstage] at h
      have hexit : run.exit = none := h
      rw [hexit]
      exact orderly_exitVerdict code run.tail
  | reaping verdict =>
      rw [hstage] at h
      obtain ⟨fault, rfl⟩ := h
      exact trivial
  | ended verdict =>
      rw [hstage] at h
      cases verdict with
      | finished =>
          have hexit : run.exit = some 0 := h
          rw [hexit]
          rfl
      | failed fault => exact trivial
      | cancelled => exact h.elim

/-- Whatever happens to a run, short of a cancellation, it knows about its end. -/
theorem orderly_step {run : Run} (h : run.stage.Orderly run.exit) {event : Event}
    (hevent : event ≠ .cancelled) : (run.step event).stage.Orderly (run.step event).exit := by
  unfold step
  split
  · rename_i hstage
    exact orderly_readChunk _ hstage
  · exact orderly_finishReading run
  · exact trivial
  · exact orderly_stop _ run
  · exact orderly_exitWith _ h
  · split
    · exact orderly_stop _ run
    · exact h
  · exact absurd rfl hevent
  · exact absurd rfl hevent
  · exact h

/-- The end of a run stays what it is. -/
theorem stage_step_of_ended {run : Run} {verdict : Verdict} (h : run.stage = .ended verdict)
    (event : Event) : (run.step event).stage = .ended verdict := by
  cases event <;> simp [step, exitWith, isStoppable, h]

/-- A report is received only where one was made. -/
theorem step_reported {run : Run} (h : ∀ progress, run.stage ≠ .reporting progress) :
    run.step .reported = run := by
  cases hstage : run.stage with
  | reporting progress => exact absurd hstage (h progress)
  | _ => simp [step, hstage]

end Run

end Montage.Engine
