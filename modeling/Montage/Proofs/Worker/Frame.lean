/-
  Montage.Proofs.Worker.Frame

  What the parts of a worker leave alone.  Polls move under the claim lock without
  touching the table, the tasks or the jobs in flight; a task moves without touching the
  other tasks.
-/
import Mathlib.Data.List.Basic
import Montage.Worker.Step

namespace Montage.Worker.State

open Montage.Jobs

/-! ## Polls -/

/-- Nothing but polls and the loop may be different. -/
structure SameJobs (before after : State) : Prop where
  world : after.world = before.world
  tasks : after.tasks = before.tasks
  inFlight : after.inFlight = before.inFlight

theorem SameJobs.refl (state : State) : SameJobs state state :=
  ⟨rfl, rfl, rfl⟩

theorem SameJobs.trans {before middle after : State} (hfirst : SameJobs before middle)
    (hsecond : SameJobs middle after) : SameJobs before after :=
  ⟨hsecond.world.trans hfirst.world, hsecond.tasks.trans hfirst.tasks,
    hsecond.inFlight.trans hfirst.inFlight⟩

/-- What was the same before stays so after a step that leaves the jobs alone. -/
theorem SameJobs.after {before middle after : State} (hsecond : SameJobs middle after)
    (hfirst : SameJobs before middle) : SameJobs before after :=
  hfirst.trans hsecond

/-- How far the shutdown of a worker has come. -/
def shutdown (state : State) : Stop × Bool :=
  (state.stop, state.loopCancelled)

/-- Nobody has signalled or gone on with the shutdown, and at most the pass of the loop is
    over. -/
structure Undisturbed (before after : State) : Prop where
  wakeup : after.wakeup = before.wakeup
  shutdown : after.shutdown = before.shutdown
  loop : after.loop = before.loop ∨
    (∃ number, before.loop = .passing number) ∧ after.loop = .waiting

theorem Undisturbed.refl (state : State) : Undisturbed state state :=
  ⟨rfl, rfl, .inl rfl⟩

theorem Undisturbed.trans {before middle after : State} (hfirst : Undisturbed before middle)
    (hsecond : Undisturbed middle after) : Undisturbed before after := by
  refine ⟨hsecond.wakeup.trans hfirst.wakeup, hsecond.shutdown.trans hfirst.shutdown, ?_⟩
  rcases hsecond.loop with hsame | ⟨⟨number, hpassing⟩, hwaiting⟩
  · rw [hsame]
    exact hfirst.loop
  -- a loop that waits is in no pass, so it has not been in one before either
  · rcases hfirst.loop with hsame | ⟨-, hover⟩
    · exact .inr ⟨⟨number, hsame ▸ hpassing⟩, hwaiting⟩
    · rw [hover] at hpassing
      cases hpassing

/-- Nothing but polls may be different, and the pass of the loop may be over. -/
structure OnlyPolls (before after : State) : Prop extends
  SameJobs before after, Undisturbed before after

/-- Steps that move polls without touching the loop. -/
theorem OnlyPolls.of_loop {before after : State} (hsame : SameJobs before after)
    (hwakeup : after.wakeup = before.wakeup) (hshutdown : after.shutdown = before.shutdown)
    (hloop : after.loop = before.loop) : OnlyPolls before after :=
  ⟨hsame, hwakeup, hshutdown, .inl hloop⟩

theorem OnlyPolls.refl (state : State) : OnlyPolls state state :=
  ⟨.refl state, .refl state⟩

theorem OnlyPolls.trans {before middle after : State} (hfirst : OnlyPolls before middle)
    (hsecond : OnlyPolls middle after) : OnlyPolls before after :=
  ⟨hfirst.toSameJobs.trans hsecond.toSameJobs, hfirst.toUndisturbed.trans hsecond.toUndisturbed⟩

/-- What was left alone before stays so after a step that moves only polls. -/
theorem OnlyPolls.after {before middle after : State} (hsecond : OnlyPolls middle after)
    (hfirst : OnlyPolls before middle) : OnlyPolls before after :=
  hfirst.trans hsecond

theorem onlyPolls_setPoint (number : Nat) (point : Point) (state : State) :
    OnlyPolls state (state.setPoint number point) :=
  .of_loop ⟨rfl, rfl, rfl⟩ rfl rfl rfl

theorem onlyPolls_release (state : State) : OnlyPolls state state.release := by
  unfold release
  cases state.queue with
  | nil => exact .of_loop ⟨rfl, rfl, rfl⟩ rfl rfl rfl
  | cons next rest => exact .of_loop ⟨rfl, rfl, rfl⟩ rfl rfl rfl

theorem onlyPolls_enter (config : Config) (number : Nat) (state : State) :
    OnlyPolls state (state.enter config number).1 := by
  unfold enter
  split
  · exact onlyPolls_setPoint number .fetching state
  · exact .refl state

theorem onlyPolls_endPoll (number : Nat) (result : PollResult) (state : State) :
    OnlyPolls state (state.endPoll number result) := by
  unfold endPoll
  dsimp only
  split
  next hloop => exact ⟨⟨rfl, rfl, rfl⟩, rfl, rfl, .inr ⟨⟨number, hloop⟩, rfl⟩⟩
  next => exact onlyPolls_setPoint number _ state

/-- A poll that was let in goes on, or finds no free slot, gives the lock back and ends. -/
theorem onlyPolls_leave (config : Config) (number : Nat) (result : PollResult) (state : State) :
    OnlyPolls state (if (state.enter config number).2 then (state.enter config number).1
      else (state.enter config number).1.release.endPoll number result) := by
  have henter := onlyPolls_enter config number state
  split
  · exact henter
  · exact (henter.trans (onlyPolls_release _)).trans (onlyPolls_endPoll number result _)

theorem onlyPolls_acquire (config : Config) (poll : Poll) (state : State) :
    OnlyPolls state (state.acquire config poll) := by
  unfold acquire
  split
  · exact (onlyPolls_leave config poll.number _ { state with holder := some poll.number }).after
      (.of_loop ⟨rfl, rfl, rfl⟩ rfl rfl rfl)
  · exact .of_loop ⟨rfl, rfl, rfl⟩ rfl rfl rfl

theorem onlyPolls_continueFilling (config : Config) (poll : Poll) (state : State) :
    OnlyPolls state (state.continueFilling config poll) := by
  unfold continueFilling
  split
  · exact onlyPolls_acquire config poll state
  · exact onlyPolls_endPoll _ _ state

theorem onlyPolls_concludeClaim (config : Config) (poll : Poll)
    (result : Except Fault (Option JobId)) (state : State) :
    OnlyPolls state (state.concludeClaim config poll result) := by
  have hrelease := onlyPolls_release state
  unfold concludeClaim
  dsimp only
  split
  · exact hrelease.trans (onlyPolls_endPoll _ _ _)
  · exact hrelease.trans (onlyPolls_endPoll _ _ _)
  · have hset : ∀ next, OnlyPolls state (state.release.setPoll next) := fun next =>
      hrelease.trans (.of_loop ⟨rfl, rfl, rfl⟩ rfl rfl rfl)
    split
    · exact (onlyPolls_endPoll _ _ _).after (hset _)
    · exact (onlyPolls_continueFilling config _ _).after (hset _)

/-- A poll that begins may be the pass of the loop. -/
theorem onlyPolls_beginPoll (config : Config) (purpose : Purpose) (forLoop : Bool)
    (state : State) :
    OnlyPolls { state with loop := if forLoop then .passing state.polls.length else state.loop }
      (state.beginPoll config purpose forLoop) := by
  unfold beginPoll
  cases forLoop <;> cases purpose
  · exact (onlyPolls_acquire config _ _).after (.of_loop ⟨rfl, rfl, rfl⟩ rfl rfl rfl)
  · exact (onlyPolls_continueFilling config _ _).after (.of_loop ⟨rfl, rfl, rfl⟩ rfl rfl rfl)
  · exact (onlyPolls_acquire config _ _).after (.of_loop ⟨rfl, rfl, rfl⟩ rfl rfl rfl)
  · exact (onlyPolls_continueFilling config _ _).after (.of_loop ⟨rfl, rfl, rfl⟩ rfl rfl rfl)

theorem sameJobs_beginPoll (config : Config) (purpose : Purpose) (forLoop : Bool) (state : State) :
    SameJobs state (state.beginPoll config purpose forLoop) :=
  (onlyPolls_beginPoll config purpose forLoop state).toSameJobs.after ⟨rfl, rfl, rfl⟩

theorem onlyPolls_useOldest (config : Config) (poll : Poll) (reply : Reply) (state : State) :
    OnlyPolls state (state.useOldest config poll reply) := by
  unfold useOldest
  split
  · split
    · exact onlyPolls_concludeClaim config poll _ state
    · exact onlyPolls_setPoint _ _ state
  · exact onlyPolls_concludeClaim config poll _ state
  · exact onlyPolls_concludeClaim config poll _ state
  · exact onlyPolls_concludeClaim config poll _ state

theorem undisturbed_useClaim (config : Config) (poll : Poll) (job : Job) (reply : Reply)
    (state : State) : Undisturbed state (state.useClaim config poll job reply) := by
  have hconclude : ∀ result before, Undisturbed state before →
      Undisturbed state (before.concludeClaim config poll result) := fun result before hbefore =>
    hbefore.trans (onlyPolls_concludeClaim config poll result before).toUndisturbed
  unfold useClaim settleClaim
  split
  · dsimp only
    split <;> exact hconclude _ _ ⟨rfl, rfl, .inl rfl⟩
  · split <;> exact hconclude _ _ ⟨rfl, rfl, .inl rfl⟩
  · refine hconclude _ _ ?_
    split <;> exact ⟨rfl, rfl, .inl rfl⟩

/-- Whether an event moves only polls and the loop. -/
def IsPolling : Event → Prop
  | .claimed _ _ | .task _ _ | .stop _ | .loopCancelled _ | .stopCollects | .stopFinishes => False
  | _ => True

theorem sameJobs_step (config : Config) {event : Event} (h : IsPolling event) (state : State) :
    SameJobs state (state.step config event) := by
  unfold step
  cases event with
  | poll => exact sameJobs_beginPoll config .one false state
  | fill => exact sameJobs_beginPoll config .fill false state
  | resume number =>
      dsimp only
      split
      · split
        · exact (onlyPolls_leave config number _ state).toSameJobs
        · exact .refl state
      · exact .refl state
  | fetched number reply =>
      dsimp only
      split
      · split
        · exact (onlyPolls_useOldest config _ reply state).toSameJobs
        · exact .refl state
      · exact .refl state
  | trigger => exact ⟨rfl, rfl, rfl⟩
  | loopStarts =>
      dsimp only
      split
      · exact sameJobs_beginPoll config .fill true state
      · exact .refl state
  | loopResumes =>
      dsimp only
      split
      · exact (sameJobs_beginPoll config .fill true _).after ⟨rfl, rfl, rfl⟩
      · exact .refl state
  | start | loopWakes | loopTimesOut =>
      dsimp only
      split
      · exact ⟨rfl, rfl, rfl⟩
      · exact .refl state
  | claimed | task | stop | loopCancelled | stopCollects | stopFinishes => exact h.elim

/-! ## Tasks -/

/-- Tasks are numbered in the order in which they were created. -/
def Numbered (state : State) : Prop :=
  state.tasks.map Task.number = List.range state.tasks.length

theorem Numbered.nodup {state : State} (h : state.Numbered) :
    (state.tasks.map Task.number).Nodup := by
  rw [h]
  exact List.nodup_range

theorem numbered_register {state : State} (h : state.Numbered) (job : Job) :
    (state.register job).Numbered := by
  have hlength : (state.register job).tasks.length = state.tasks.length + 1 := by
    simp [register]
  rw [Numbered, hlength, List.range_succ, ← h]
  simp [register]

theorem openTask?_eq_some {number : Nat} {state : State} {task : Task}
    (h : state.openTask? number = some task) :
    task ∈ state.tasks ∧ task.number = number ∧ task.isOver = false := by
  obtain ⟨hfind, hopen⟩ := Option.filter_eq_some_iff.mp h
  have hnumber := List.find?_some hfind
  exact ⟨List.mem_of_find?_eq_some hfind, by simpa using hnumber, by simpa using hopen⟩

/-- A task that moves takes its own place among the tasks. -/
theorem exists_setTask {state : State} (h : state.Numbered) {task next : Task}
    (hmem : task ∈ state.tasks) (hnumber : next.number = task.number) :
    ∃ before after, state.tasks = before ++ task :: after ∧
      (state.setTask next).tasks = before ++ next :: after := by
  obtain ⟨before, after, hsplit⟩ := List.append_of_mem hmem
  have hnodup := h.nodup
  rw [hsplit, List.map_append, List.map_cons, List.nodup_append, List.nodup_cons] at hnodup
  obtain ⟨-, ⟨hafter, -⟩, hbefore⟩ := hnodup
  -- numbers are distinct, so no other task is replaced
  have hkeep : ∀ others : List Task, task.number ∉ others.map Task.number →
      (others.map fun other => if other.number = next.number then next else other) = others := by
    intro others hothers
    have hsame : ∀ other ∈ others,
        (if other.number = next.number then next else other) = id other := by
      intro other hother
      have hne : other.number ≠ next.number := fun heq =>
        hothers (List.mem_map.mpr ⟨other, hother, heq.trans hnumber⟩)
      exact if_neg hne
    rw [List.map_congr_left hsame, List.map_id]
  have hfirst : task.number ∉ before.map Task.number := fun hin =>
    hbefore _ hin _ List.mem_cons_self rfl
  refine ⟨before, after, hsplit, ?_⟩
  rw [setTask, hsplit, List.map_append, List.map_cons, hkeep before hfirst, hkeep after hafter,
    if_pos hnumber.symm]

theorem tasks_updateTask (world : World) (task : Task) (state : State) :
    (state.updateTask world task).tasks = (state.setTask task).tasks := by
  unfold updateTask
  dsimp only
  split <;> rfl

theorem world_updateTask (world : World) (task : Task) (state : State) :
    (state.updateTask world task).world = world := by
  unfold updateTask
  dsimp only
  split <;> rfl

/-- A task that somebody may have asked to stop. -/
def asked (numbers : List Nat) (task : Task) : Task :=
  if numbers.contains task.number && !task.isOver then { task with cancelRequested := true }
  else task

/-- The shutdown turns to the jobs in flight; of the tasks it changes only whether they
    were asked to stop. -/
theorem exists_tasks_collectJobs (cancelJobs : Bool) (state : State) :
    ∃ numbers, (state.collectJobs cancelJobs).tasks = state.tasks.map (asked numbers) ∧
      (state.collectJobs cancelJobs).world = state.world := by
  cases cancelJobs with
  | true => exact ⟨state.inFlight.map Prod.snd, rfl, rfl⟩
  | false =>
      refine ⟨[], ?_, rfl⟩
      have hsame : asked [] = id := by
        funext task
        simp [asked]
      rw [hsame, List.map_id]
      rfl

end Montage.Worker.State
