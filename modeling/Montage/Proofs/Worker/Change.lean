/-
  Montage.Proofs.Worker.Change

  Everything that an event of a worker can do to the table, the tasks and the jobs in
  flight.  What holds of a worker at all times follows by cases on this.
-/
import Montage.Proofs.Worker.Frame

namespace Montage.Worker

open Montage.Jobs

/-- Whether a task waits for its first step. -/
def Task.isWaiting (task : Task) : Bool :=
  match task.phase with
  | .created => true
  | _ => false

theorem Task.isWaiting_iff {task : Task} : task.isWaiting = true ↔ task.phase = .created := by
  unfold Task.isWaiting
  split
  next h => simp [h]
  next h => simpa using h

namespace State

/-! ## Wins and beginnings -/

/-- The job that an event wins: the table says that its claim succeeded. -/
def won? (event : Event) (state : State) : Option JobId :=
  match event with
  | .claimed number .genuine =>
    match (state.poll? number).map Poll.point with
    | some (.claiming job) => if (state.world.store.claim job.id).1 then some job.id else none
    | _ => none
  | _ => none

/-- The job that an event begins to work on: the first step of a task. -/
def begun? (event : Event) (state : State) : Option JobId :=
  match event with
  | .task number .begin =>
    (state.openTask? number).bind fun task => if task.isWaiting then some task.job.id else none
  | _ => none

/-- Whether an event neither wins nor begins a job. -/
def IsIdle (event : Event) (state : State) : Prop :=
  state.won? event = none ∧ state.begun? event = none

/-! ## Changes -/

/-- What an event does to the table, the tasks and the jobs in flight.  Polls and the loop
    may move besides. -/
inductive Change (config : Config) (state : State) : Event → State → Prop
  /-- Nothing. -/
  | idle {event : Event} {after : State} (hsame : SameJobs state after)
      (hidle : IsIdle event state) : Change config state event after
  /-- The table gives a job to the worker, which makes a task of it. -/
  | won {number : Nat} {after : State} (job : Job)
      (hclaim : (state.world.store.claim job.id).1 = true)
      (hwon : state.won? (.claimed number .genuine) = some job.id)
      (hsame : SameJobs ((state.claimRow job.id).2.register job) after) :
      Change config state (.claimed number .genuine) after
  /-- The table is asked for a job that the worker does not get: the job was gone, or
      nobody hears of the answer. -/
  | lost {event : Event} {after : State} (id : JobId)
      (hsame : SameJobs (state.claimRow id).2 after) (hidle : IsIdle event state) :
      Change config state event after
  /-- Something else than the table says that the claim succeeded. -/
  | stubbed {number : Nat} {value : Json} {after : State} (job : Job)
      (hsame : SameJobs (state.register job) after) :
      Change config state (.claimed number (.instead value)) after
  | task (number : Nat) (event : TaskEvent) :
      Change config state (.task number event) (state.stepTask config number event)
  /-- The shutdown turns to the jobs in flight. -/
  | stopping {event : Event} (cancelJobs : Bool) (hidle : IsIdle event state) :
      Change config state event (state.collectJobs cancelJobs)
  /-- The shutdown is over. -/
  | stopped : Change config state .stopFinishes { state with inFlight := [], stop := .idle }

/-! ## Claims -/

theorem won?_eq_none_of_ne {state : State} {number : Nat} {reply : Reply}
    (h : ∀ job, (state.poll? number).map Poll.point ≠ some (.claiming job)) :
    state.won? (.claimed number reply) = none := by
  cases reply with
  | genuine =>
      unfold won?
      dsimp only
      split
      next job hpoint => exact absurd hpoint (h job)
      next => rfl
  | _ => rfl

theorem change_useClaim {state : State} {number : Nat} {poll : Poll} {job : Job}
    (hpoll : state.poll? number = some poll) (hpoint : poll.point = .claiming job)
    (config : Config) (reply : Reply) :
    Change config state (.claimed number reply) (state.useClaim config poll job reply) := by
  cases reply with
  | genuine =>
      have hwon : state.won? (.claimed number .genuine) =
          if (state.world.store.claim job.id).1 then some job.id else none := by
        simp only [won?, hpoll, Option.map_some, hpoint]
      have hclaimed : (state.claimRow job.id).1 = (state.world.store.claim job.id).1 := rfl
      unfold useClaim
      dsimp only
      cases hclaim : (state.world.store.claim job.id).1 with
      | true =>
          rw [hclaim, if_pos rfl] at hwon
          rw [hclaimed, hclaim, settleClaim, if_pos rfl]
          exact .won job hclaim hwon (onlyPolls_concludeClaim config poll _ _).toSameJobs
      | false =>
          rw [hclaim, if_neg Bool.false_ne_true] at hwon
          rw [hclaimed, hclaim, settleClaim, if_neg Bool.false_ne_true]
          exact .lost job.id (onlyPolls_concludeClaim config poll _ _).toSameJobs ⟨hwon, rfl⟩
  | «instead» value =>
      unfold useClaim settleClaim
      dsimp only
      split
      · exact .stubbed job (onlyPolls_concludeClaim config poll _ _).toSameJobs
      · exact .idle (onlyPolls_concludeClaim config poll _ state).toSameJobs ⟨rfl, rfl⟩
  | raises fault committed =>
      unfold useClaim
      cases committed with
      | true => exact .lost job.id (onlyPolls_concludeClaim config poll _ _).toSameJobs ⟨rfl, rfl⟩
      | false => exact .idle (onlyPolls_concludeClaim config poll _ state).toSameJobs ⟨rfl, rfl⟩

theorem change_claimed (config : Config) (number : Nat) (reply : Reply) (state : State) :
    Change config state (.claimed number reply) (state.step config (.claimed number reply)) := by
  -- only a poll that waits for its claim is answered
  cases hpoll : state.poll? number with
  | none =>
      have hstep : state.step config (.claimed number reply) = state := by
        simp only [step, hpoll]
      have hnone : state.won? (.claimed number reply) = none :=
        won?_eq_none_of_ne fun job => by simp [hpoll]
      rw [hstep]
      exact .idle (.refl state) ⟨hnone, rfl⟩
  | some poll =>
      cases hpoint : poll.point with
      | claiming job =>
          have hstep : state.step config (.claimed number reply) =
              state.useClaim config poll job reply := by
            simp only [step, hpoll, hpoint]
          rw [hstep]
          exact change_useClaim hpoll hpoint config reply
      | _ =>
          have hstep : state.step config (.claimed number reply) = state := by
            simp only [step, hpoll, hpoint]
          have hnone : state.won? (.claimed number reply) = none :=
            won?_eq_none_of_ne fun job => by simp [hpoll, hpoint]
          rw [hstep]
          exact .idle (.refl state) ⟨hnone, rfl⟩

/-! ## Cancellation -/

/-- A poll that is cancelled gives the lock back; a claim that it waits for may have had its
    effect. -/
theorem onlyPolls_cancelPoll (poll : Poll) (committed : Bool) (state : State) :
    OnlyPolls state (state.cancelPoll poll committed) ∨
      ∃ job, poll.point = .claiming job ∧ committed = true ∧
        OnlyPolls (state.claimRow job.id).2 (state.cancelPoll poll committed) := by
  have hended : ∀ before : State, OnlyPolls before
      (before.setPoint poll.number (.done .cancelled)) := fun before =>
    onlyPolls_setPoint _ _ before
  have hreleased : ∀ before : State, OnlyPolls before
      (before.release.setPoint poll.number (.done .cancelled)) := fun before =>
    (hended _).after (onlyPolls_release before)
  unfold cancelPoll
  dsimp only
  split
  · exact .inl ((hended _).after (.of_loop ⟨rfl, rfl, rfl⟩ rfl rfl rfl))
  · exact .inl (hreleased state)
  · exact .inl (hreleased state)
  · rename_i job hpoint
    cases committed with
    -- the row was claimed, but nobody will hear of it
    | true => exact .inr ⟨job, hpoint, rfl, hreleased _⟩
    | false => exact .inl (hreleased state)
  · exact .inl (hended state)

/-- A loop that is cancelled leaves the jobs alone, but for a claim of its pass that may have had
    its effect. -/
theorem sameJobs_cancelLoop (committed : Bool) (state : State) :
    SameJobs state (state.cancelLoop committed) ∨
      ∃ number poll job, state.loop = .passing number ∧ state.poll? number = some poll ∧
        poll.point = .claiming job ∧ committed = true ∧
        SameJobs (state.claimRow job.id).2 (state.cancelLoop committed) := by
  unfold cancelLoop
  dsimp only
  split
  · exact .inl ⟨rfl, rfl, rfl⟩
  · exact .inl ⟨rfl, rfl, rfl⟩
  · rename_i number hloop
    split
    · exact .inl ⟨rfl, rfl, rfl⟩
    · rename_i poll hpoll
      rcases onlyPolls_cancelPoll poll committed { state with loopCancelled := false } with
        hsame | ⟨job, hpoint, hcommitted, hsame⟩
      · exact .inl ⟨hsame.world, hsame.tasks, hsame.inFlight⟩
      · exact .inr ⟨number, poll, job, hloop, hpoll, hpoint, hcommitted, hsame.world, hsame.tasks,
          hsame.inFlight⟩
  · exact .inl ⟨rfl, rfl, rfl⟩
  · exact .inl ⟨rfl, rfl, rfl⟩

/-! ## Events -/

/-- Every event makes one of the changes. -/
theorem change_step (config : Config) (event : Event) (state : State) :
    Change config state event (state.step config event) := by
  cases event with
  | claimed number reply => exact change_claimed config number reply state
  | task number event => exact .task number event
  | stop cancelJobs =>
      unfold step
      dsimp only
      split
      · exact .idle (.refl state) ⟨rfl, rfl⟩
      · split
        · exact .stopping cancelJobs ⟨rfl, rfl⟩
        · exact .idle ⟨rfl, rfl, rfl⟩ ⟨rfl, rfl⟩
  | loopCancelled committed =>
      unfold step
      dsimp only
      split
      · rcases sameJobs_cancelLoop committed state with hsame | ⟨_, _, job, -, -, -, -, hsame⟩
        · exact .idle hsame ⟨rfl, rfl⟩
        · exact .lost job.id hsame ⟨rfl, rfl⟩
      · exact .idle (.refl state) ⟨rfl, rfl⟩
  | stopCollects =>
      unfold step
      dsimp only
      split
      · split
        · exact .stopping _ ⟨rfl, rfl⟩
        · exact .idle (.refl state) ⟨rfl, rfl⟩
      · exact .idle (.refl state) ⟨rfl, rfl⟩
  | stopFinishes =>
      unfold step
      dsimp only
      split
      · split
        · exact .stopped
        · exact .idle (.refl state) ⟨rfl, rfl⟩
      · exact .idle (.refl state) ⟨rfl, rfl⟩
  | _ =>
      refine .idle (sameJobs_step config ?_ state) ⟨rfl, rfl⟩
      exact trivial

end State

end Montage.Worker
