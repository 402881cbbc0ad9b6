/-
  Montage.Proofs.Worker.Turn

  What one event of a worker comes to that wins and begins jobs: how the table goes on,
  and which tasks wait for their first step.
-/
import Mathlib.Data.List.Basic
import Montage.Proofs.Worker.Change
import Montage.Proofs.Worker.Task

namespace Montage.Worker

open Montage.Jobs

/-! ## Jobs of tasks -/

/-- The jobs of the tasks that wait for their first step. -/
def waitingJobs (tasks : List Task) : List JobId :=
  (tasks.filter Task.isWaiting).map fun task => task.job.id

theorem waitingJobs_append (first second : List Task) :
    waitingJobs (first ++ second) = waitingJobs first ++ waitingJobs second := by
  simp [waitingJobs]

theorem waitingJobs_cons (task : Task) (rest : List Task) :
    waitingJobs (task :: rest) = waitingJobs [task] ++ waitingJobs rest :=
  waitingJobs_append [task] rest

theorem waitingJobs_singleton (task : Task) :
    waitingJobs [task] = if task.isWaiting then [task.job.id] else [] := by
  cases h : task.isWaiting <;> simp [waitingJobs, h]

theorem Task.Later.count_le {before after : Task} (h : Task.Later before after) (id : JobId) :
    (waitingJobs [after]).count id ≤ (waitingJobs [before]).count id := by
  rw [waitingJobs_singleton, waitingJobs_singleton, h.job]
  cases hafter : after.isWaiting with
  | false => simp
  | true =>
      have hbefore : before.isWaiting = true :=
        Task.isWaiting_iff.mpr (h.begun (Task.isWaiting_iff.mp hafter))
      exact Nat.le_of_eq (by rw [hbefore])

namespace State

/-- The jobs of all tasks, in the order in which the tasks were created. -/
def taskJobs (state : State) : List JobId :=
  state.tasks.map fun task => task.job.id

/-- What an event comes to that wins and begins these jobs. -/
structure Turn (before after : State) (won begun : Option JobId) : Prop where
  numbered : after.Numbered
  advances : Store.Advances before.world.store after.world.store
  /-- A job that is won gets a task, and no other job does. -/
  jobs : after.taskJobs = before.taskJobs ++ won.toList
  /-- A job that begins was waiting and waits no longer. -/
  waiting : ∀ id, begun.toList.count id + (waitingJobs after.tasks).count id ≤
    (waitingJobs before.tasks).count id + won.toList.count id

theorem Turn.of_tasks {before after : State} (hnumbered : before.Numbered)
    (htasks : after.tasks = before.tasks)
    (hadvances : Store.Advances before.world.store after.world.store) :
    Turn before after none none := by
  refine ⟨?_, hadvances, ?_, fun id => ?_⟩
  · rw [Numbered, htasks]
    exact hnumbered
  · rw [taskJobs, htasks]
    exact (List.append_nil _).symm
  · rw [htasks]
    simp

theorem SameJobs.turn {before after : State} (h : SameJobs before after)
    (hnumbered : before.Numbered) : Turn before after none none :=
  .of_tasks hnumbered h.tasks (h.world ▸ Store.Advances.refl _)

/-! ## Claims -/

theorem turn_claimRow {state : State} (hnumbered : state.Numbered) (id : JobId) :
    Turn state (state.claimRow id).2 none none :=
  .of_tasks hnumbered rfl (Store.advances_claim id state.world.store)

/-- A job that a claim has won gets a task that waits for its first step. -/
theorem turn_register {state : State} (hnumbered : state.Numbered) (job : Job) :
    Turn state (state.register job) (some job.id) none := by
  refine ⟨numbered_register hnumbered job, Store.Advances.refl _, ?_, fun id => ?_⟩
  · simp [register, taskJobs]
  · simp [register, waitingJobs_append, waitingJobs_singleton, Task.isWaiting]

/-- Steps that leave the jobs alone may follow. -/
theorem Turn.sameJobs {before middle after : State} {won begun : Option JobId}
    (h : Turn before middle won begun) (hsame : SameJobs middle after) :
    Turn before after won begun := by
  refine ⟨?_, ?_, ?_, fun id => ?_⟩
  · rw [Numbered, hsame.tasks]
    exact h.numbered
  · rw [hsame.world]
    exact h.advances
  · rw [taskJobs, hsame.tasks]
    exact h.jobs
  · rw [hsame.tasks]
    exact h.waiting id

/-- A change of the table may come first. -/
theorem Turn.after_advance {before middle after : State} {won begun : Option JobId}
    (h : Turn middle after won begun) (htasks : middle.tasks = before.tasks)
    (hadvances : Store.Advances before.world.store middle.world.store) :
    Turn before after won begun := by
  refine ⟨h.numbered, hadvances.trans h.advances, ?_, fun id => ?_⟩
  · rw [h.jobs, taskJobs, htasks]
    rfl
  · rw [← htasks]
    exact h.waiting id

/-- The table gives a job away, and the job gets its task. -/
theorem turn_won {state : State} (hnumbered : state.Numbered) (job : Job) :
    Turn state ((state.claimRow job.id).2.register job) (some job.id) none := by
  have hclaimed : (state.claimRow job.id).2.Numbered := (turn_claimRow hnumbered job.id).numbered
  have hadvances := Store.advances_claim job.id state.world.store
  exact (turn_register hclaimed job).after_advance rfl hadvances

/-! ## Tasks -/

/-- A task moves; if it begins, it was waiting and waits no longer. -/
theorem turn_updateTask {state : State} (hnumbered : state.Numbered) {task next : Task}
    {world : World} {begun : Option JobId} (hmem : task ∈ state.tasks)
    (hlater : Task.Later task next) (hadvances : Store.Advances state.world.store world.store)
    (hbegun : ∀ id, begun.toList.count id + (waitingJobs [next]).count id ≤
      (waitingJobs [task]).count id) :
    Turn state (state.updateTask world next) none begun := by
  -- the other tasks keep their places, so only this one counts
  obtain ⟨before, after, htasks, hnext⟩ := exists_setTask hnumbered hmem hlater.number
  rw [← tasks_updateTask world next state] at hnext
  refine ⟨?_, ?_, ?_, fun id => ?_⟩
  · rw [Numbered, htasks] at hnumbered
    rw [Numbered, hnext]
    simpa [hlater.number] using hnumbered
  · rw [world_updateTask]
    exact hadvances
  · simp [taskJobs, htasks, hnext, hlater.job]
  · have hmoved := hbegun id
    rw [htasks, hnext, waitingJobs_append, waitingJobs_append, waitingJobs_cons next,
      waitingJobs_cons task, List.count_append, List.count_append, List.count_append,
      List.count_append, Option.toList_none, List.count_nil]
    omega

/-- The first step of a task ends its waiting. -/
theorem isWaiting_begin (config : Config) (world : World) {task : Task}
    (h : task.isWaiting = true) : (task.step config .begin world).2.isWaiting = false := by
  have hphase : task.phase = .created := Task.isWaiting_iff.mp h
  unfold Task.step
  rw [hphase]
  dsimp only
  split <;> rfl

/-- A task moves that does not begin. -/
theorem turn_move {state : State} (hnumbered : state.Numbered) {task : Task}
    (hmem : task ∈ state.tasks) {moved : World × Task}
    (hkeeps : Task.Keeps state.world task moved) :
    Turn state (state.updateTask moved.1 moved.2) none none := by
  refine turn_updateTask hnumbered hmem hkeeps.later hkeeps.advances fun id => ?_
  rw [Option.toList_none, List.count_nil, Nat.zero_add]
  exact hkeeps.later.count_le id

theorem stepTask_of_open {state : State} {number : Nat} {task : Task}
    (hopen : state.openTask? number = some task) (config : Config) (event : TaskEvent)
    (hevent : ∀ committed, event ≠ .cancel committed) :
    state.stepTask config number event =
      state.updateTask (task.step config event state.world).1
        (task.step config event state.world).2 := by
  rw [stepTask, hopen]
  cases event with
  | cancel committed => exact absurd rfl (hevent committed)
  | _ => rfl

/-- A task that is not over takes a step, unless it is to be cancelled and nobody has asked for
    that; a request is taken up as the task is cancelled. -/
theorem stepTask_cases (config : Config) (number : Nat) (event : TaskEvent) (state : State) :
    state.stepTask config number event = state ∨
      ∃ task requested, state.openTask? number = some task ∧
        (∀ committed, event = .cancel committed → task.cancelRequested = true) ∧
        state.stepTask config number event =
          state.updateTask
            (({ task with cancelRequested := requested } : Task).step config event state.world).1
            (({ task with cancelRequested := requested } : Task).step config event
              state.world).2 := by
  cases hopen : state.openTask? number with
  | none => exact .inl (by rw [stepTask, hopen])
  | some task =>
      by_cases hcancel : ∃ committed, event = .cancel committed
      · obtain ⟨committed, rfl⟩ := hcancel
        by_cases hasked : task.cancelRequested = true
        · refine .inr ⟨task, false, rfl, fun _ _ => hasked, ?_⟩
          rw [stepTask, hopen, Task.step_cancel]
          exact if_pos hasked
        · refine .inl ?_
          rw [stepTask, hopen]
          exact if_neg hasked
      · have hevent : ∀ committed, event ≠ .cancel committed := fun committed heq =>
          hcancel ⟨committed, heq⟩
        exact .inr ⟨task, task.cancelRequested, rfl,
          fun committed heq => absurd heq (hevent committed),
          stepTask_of_open hopen config event hevent⟩

theorem turn_begin {state : State} (hnumbered : state.Numbered) (config : Config) {number : Nat}
    {task : Task} (hopen : state.openTask? number = some task) :
    Turn state (state.stepTask config number .begin) none (state.begun? (.task number .begin)) := by
  have hkeeps := task.keeps_step config .begin state.world
  have hmem := (openTask?_eq_some hopen).1
  have hbegun : state.begun? (.task number .begin) =
      if task.isWaiting then some task.job.id else none := by
    rw [begun?, hopen]
    rfl
  rw [stepTask_of_open hopen config .begin nofun, hbegun]
  cases hwaiting : task.isWaiting with
  | false => exact turn_move hnumbered hmem hkeeps
  | true =>
      -- the task waited for this step, and waits no longer
      have hgone := isWaiting_begin config state.world hwaiting
      refine turn_updateTask hnumbered hmem hkeeps.later hkeeps.advances fun id => ?_
      rw [waitingJobs_singleton, waitingJobs_singleton, hwaiting, hgone]
      simp

theorem turn_cancel {state : State} (hnumbered : state.Numbered) (config : Config) {number : Nat}
    {task : Task} (hopen : state.openTask? number = some task) (committed : Bool) :
    Turn state (state.stepTask config number (.cancel committed)) none none := by
  have hmem := (openTask?_eq_some hopen).1
  have hkeeps := Task.keeps_cancelAt config committed state.world
    { task with cancelRequested := false }
  rw [stepTask, hopen]
  dsimp only
  split
  · exact turn_move hnumbered hmem
      ⟨⟨hkeeps.later.number, hkeeps.later.job, hkeeps.later.begun⟩, hkeeps.advances⟩
  · exact (SameJobs.refl state).turn hnumbered

theorem turn_stepTask {state : State} (hnumbered : state.Numbered) (config : Config)
    (number : Nat) (event : TaskEvent) :
    Turn state (state.stepTask config number event) none (state.begun? (.task number event)) := by
  cases hopen : state.openTask? number with
  | none =>
      have hquiet : state.begun? (.task number event) = none := by
        cases event <;> simp [begun?, hopen]
      rw [hquiet, stepTask, hopen]
      exact (SameJobs.refl state).turn hnumbered
  | some task =>
      cases event with
      | begin => exact turn_begin hnumbered config hopen
      | cancel committed => exact turn_cancel hnumbered config hopen committed
      | _ =>
          rw [stepTask_of_open hopen config]
          · exact turn_move hnumbered (openTask?_eq_some hopen).1
              (task.keeps_step config _ state.world)
          · intro committed heq
            cases heq

theorem turn_collectJobs {state : State} (hnumbered : state.Numbered) (cancelJobs : Bool) :
    Turn state (state.collectJobs cancelJobs) none none := by
  obtain ⟨numbers, htasks, hworld⟩ := state.exists_tasks_collectJobs cancelJobs
  have hasked : ∀ task, (asked numbers task).number = task.number ∧
      (asked numbers task).job = task.job ∧ (asked numbers task).isWaiting = task.isWaiting := by
    intro task
    unfold asked
    split <;> exact ⟨rfl, rfl, rfl⟩
  refine ⟨?_, hworld ▸ Store.Advances.refl _, ?_, fun id => ?_⟩
  · rw [Numbered] at hnumbered
    rw [Numbered, htasks]
    simpa [Function.comp_def, hasked] using hnumbered
  · simp [taskJobs, htasks, Function.comp_def, hasked]
  · rw [htasks]
    simp [waitingJobs, List.filter_map, Function.comp_def, hasked]

/-! ## Events -/

/-- Whether an event is one of a worker whose claims are answered by the table: a claim
    does its work, or the call fails. -/
def Genuine (event : Event) : Prop :=
  ∀ number value, event ≠ .claimed number (.instead value)

/-- Every event comes to what it wins and begins. -/
theorem turn_step {state : State} {event : Event} (hgenuine : Genuine event)
    (hnumbered : state.Numbered) (config : Config) :
    Turn state (state.step config event) (state.won? event) (state.begun? event) := by
  have hchange := change_step config event state
  generalize state.step config event = after at hchange ⊢
  cases hchange with
  | idle hsame hidle =>
      rw [hidle.1, hidle.2]
      exact hsame.turn hnumbered
  | won job hclaim hwon hsame =>
      rw [hwon]
      exact (turn_won hnumbered job).sameJobs hsame
  | lost id hsame hidle =>
      rw [hidle.1, hidle.2]
      exact (turn_claimRow hnumbered id).sameJobs hsame
  | @stubbed number value after job hsame => exact absurd rfl (hgenuine number value)
  | task number event => exact turn_stepTask hnumbered config number event
  | stopping cancelJobs hidle =>
      rw [hidle.1, hidle.2]
      exact turn_collectJobs hnumbered cancelJobs
  | stopped => exact .of_tasks hnumbered rfl (Store.Advances.refl _)

/-! ## Wins -/

/-- A job that an event wins was queued and has left the queue. -/
theorem hasLeft_of_won {state : State} {event : Event} {id : JobId}
    (h : state.won? event = some id) (config : Config) :
    ¬ state.world.store.HasLeft id ∧ (state.step config event).world.store.HasLeft id := by
  have hchange := change_step config event state
  generalize state.step config event = after at hchange ⊢
  cases hchange with
  | idle hsame hidle =>
      rw [hidle.1] at h
      cases h
  | won job hclaim hwon hsame =>
      rw [hwon] at h
      cases h
      rw [hsame.world]
      exact Store.hasLeft_of_claim hclaim
  | lost lostId hsame hidle =>
      rw [hidle.1] at h
      cases h
  | stubbed job hsame => cases h
  | task number event => cases h
  | stopping cancelJobs hidle =>
      rw [hidle.1] at h
      cases h
  | stopped => cases h

end State

end Montage.Worker
