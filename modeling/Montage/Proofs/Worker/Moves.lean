/-
  Montage.Proofs.Worker.Moves

  What one action of a fleet makes of the world and of the tasks of all workers.  One task
  takes a step, or a job is claimed and may get a task, or somebody else makes a call.  What
  holds of a task that was just created and is kept by its events therefore holds of every
  task, whatever happens.
-/
import Montage.Proofs.Worker.Fleet

namespace Montage.Worker

open Montage.Jobs

/-- Whether two tasks do the same work and stand at the same point of it. -/
structure Task.Matches (task other : Task) : Prop where
  number : other.number = task.number
  job : other.job = task.job
  phase : other.phase = task.phase

theorem Task.Matches.refl (task : Task) : task.Matches task :=
  ⟨rfl, rfl, rfl⟩

theorem Task.matches_self (tasks : List Task) : List.Forall₂ Task.Matches tasks tasks :=
  List.forall₂_same.mpr fun task _ => .refl task

/-- One task of a list stands for another one. -/
theorem Task.matches_replace {task other : Task} (h : task.Matches other) {first last : List Task} :
    List.Forall₂ Task.Matches (first ++ task :: last) (first ++ other :: last) :=
  List.rel_append (matches_self first) (.cons h (matches_self last))

theorem Task.exists_of_matches {before after : List Task}
    (h : List.Forall₂ Task.Matches before after) {task : Task} (htask : task ∈ after) :
    ∃ other ∈ before, other.Matches task := by
  obtain ⟨index, hlt, rfl⟩ := List.mem_iff_getElem.mp htask
  have hlength := h.length_eq
  refine ⟨before[index], List.getElem_mem _, ?_⟩
  exact h.get (hlength ▸ hlt) hlt

/-! ## Workers -/

namespace State

/-- What an event of a worker makes of the world and of the tasks. -/
inductive Move (config : Config) (state : State) : Event → State → Prop
  /-- Nothing, but that tasks may have been asked to stop. -/
  | still {event : Event} {after : State} (hworld : after.world = state.world)
      (htasks : List.Forall₂ Task.Matches state.tasks after.tasks) : Move config state event after
  /-- A job is claimed, and the worker does not learn that it was. -/
  | claimed {event : Event} {after : State} (id : JobId)
      (hworld : after.world = (state.claimRow id).2.world) (htasks : after.tasks = state.tasks) :
      Move config state event after
  /-- A job is claimed and gets a task. -/
  | won {event : Event} {after : State} (job : Job)
      (hclaim : (state.world.store.claim job.id).1 = true)
      (hworld : after.world = (state.claimRow job.id).2.world)
      (htasks : after.tasks = state.tasks ++ [{ number := state.tasks.length, job }]) :
      Move config state event after
  /-- A task takes a step; it is cancelled only if somebody has asked for it. -/
  | task {number : Nat} {event : TaskEvent} {after : State} {task start : Task}
      {first last : List Task} (hfind : state.openTask? number = some task)
      (hcancel : ∀ committed, event = .cancel committed → task.cancelRequested = true)
      (hstart : task.Matches start) (hbefore : state.tasks = first ++ task :: last)
      (hworld : after.world = (start.step config event state.world).1)
      (htasks : after.tasks = first ++ (start.step config event state.world).2 :: last) :
      Move config state (.task number event) after

variable {config : Config} {state : State}

theorem task_updateTask {number : Nat} {event : TaskEvent} {task start : Task}
    (hnumbered : state.Numbered) (hfind : state.openTask? number = some task)
    (hcancel : ∀ committed, event = .cancel committed → task.cancelRequested = true)
    (hstart : task.Matches start) :
    Move config state (.task number event)
      (state.updateTask (start.step config event state.world).1
        (start.step config event state.world).2) := by
  have hlater := (start.keeps_step config event state.world).later
  have hnumber := hlater.number.trans hstart.number
  obtain ⟨first, last, hbefore, hafter⟩ :=
    exists_setTask hnumbered (openTask?_eq_some hfind).1 hnumber
  refine .task hfind hcancel hstart hbefore ?_ ?_
  · exact world_updateTask _ _ state
  · exact (tasks_updateTask _ _ state).trans hafter

theorem move_stepTask (hnumbered : state.Numbered) (number : Nat) (event : TaskEvent) :
    Move config state (.task number event) (state.stepTask config number event) := by
  rcases stepTask_cases config number event state with
    hstay | ⟨task, requested, hfind, hcancel, hstep⟩
  · rw [hstay]
    exact .still rfl (Task.matches_self state.tasks)
  · rw [hstep]
    exact task_updateTask hnumbered hfind hcancel ⟨rfl, rfl, rfl⟩

/-- Every event of a worker whose claims are answered by the table makes one of the moves. -/
theorem move_step {event : Event} (hgenuine : Genuine event) (hnumbered : state.Numbered) :
    Move config state event (state.step config event) := by
  have hchange := change_step config event state
  generalize state.step config event = after at hchange ⊢
  cases hchange with
  | idle hsame hidle => exact .still hsame.world (hsame.tasks ▸ Task.matches_self state.tasks)
  | won job hclaim hwon hsame => exact .won job hclaim hsame.world hsame.tasks
  | lost id hsame hidle => exact .claimed id hsame.world hsame.tasks
  | @stubbed number value after job hsame => exact absurd rfl (hgenuine number value)
  | task number event => exact move_stepTask hnumbered number event
  | stopping cancelJobs hidle =>
      obtain ⟨numbers, htasks, hworld⟩ := state.exists_tasks_collectJobs cancelJobs
      refine .still hworld ?_
      rw [htasks, List.forall₂_map_right_iff]
      refine List.forall₂_same.mpr fun task _ => ?_
      unfold asked
      split <;> exact ⟨rfl, rfl, rfl⟩
  | stopped => exact .still rfl (Task.matches_self state.tasks)

end State

/-! ## Fleets -/

namespace Fleet

/-- The tasks of all workers. -/
def tasks (fleet : Fleet) : List Task :=
  fleet.members.flatMap fun member => member.state.tasks

/-- What an action makes of the world and of the tasks of all workers. -/
inductive Move (fleet : Fleet) : Action → Fleet → Prop
  /-- Nothing, but that tasks may have been asked to stop. -/
  | still {action : Action} {after : Fleet} (hworld : after.world = fleet.world)
      (htasks : List.Forall₂ Task.Matches fleet.tasks after.tasks) : Move fleet action after
  /-- A job is claimed, and the worker does not learn that it was. -/
  | claimed {action : Action} {after : Fleet} (id : JobId)
      (hworld : after.world = (Statement.claim id).run fleet.world)
      (htasks : after.tasks = fleet.tasks) : Move fleet action after
  /-- A job is claimed and gets a task. -/
  | won {action : Action} {after : Fleet} (job : Job) (number : Nat) {first last : List Task}
      (hclaim : (fleet.world.store.claim job.id).1 = true)
      (hworld : after.world = (Statement.claim job.id).run fleet.world)
      (hbefore : fleet.tasks = first ++ last)
      (htasks : after.tasks = first ++ { number, job } :: last) : Move fleet action after
  /-- A task of a worker takes a step; it is cancelled only if somebody has asked for it. -/
  | task {index number : Nat} {event : TaskEvent} {after : Fleet} {member : Member}
      {task start : Task} {first last : List Task}
      (hmember : fleet.members[index]? = some member)
      (hfind : member.state.openTask? number = some task)
      (hcancel : ∀ committed, event = .cancel committed → task.cancelRequested = true)
      (hstart : task.Matches start) (hbefore : fleet.tasks = first ++ task :: last)
      (hworld : after.world = (start.step member.config event fleet.world).1)
      (htasks : after.tasks = first ++ (start.step member.config event fleet.world).2 :: last) :
      Move fleet (.worker index (.task number event)) after
  | submission {index : Nat} {event : SubmissionEvent} {after : Fleet} {submission : Submission}
      (hsubmission : fleet.submissions[index]? = some submission)
      (hworld : after.world = (submission.step fleet.input event fleet.world).1)
      (htasks : after.tasks = fleet.tasks) : Move fleet (.submission index event) after
  | statement {statement : Statement} {after : Fleet}
      (hworld : after.world = statement.run fleet.world) (htasks : after.tasks = fleet.tasks) :
      Move fleet (.statement statement) after

variable {fleet : Fleet}

theorem move_worker (hnumbered : fleet.Numbered) {index : Nat} {member : Member}
    (hmember : fleet.members[index]? = some member) {event : Event}
    (hgenuine : State.Genuine event) :
    Move fleet (.worker index event) (fleet.step (.worker index event)) := by
  obtain ⟨first, last, hbefore, hstep⟩ := exists_step_worker hmember event
  let start : State := { member.state with world := fleet.world }
  have hstart : start.Numbered := hnumbered member (List.mem_of_getElem? hmember)
  have hmove := @State.move_step member.config start event hgenuine hstart
  have hworld : (fleet.step (.worker index event)).world =
      (start.step member.config event).world := by rw [hstep]; rfl
  -- the tasks of the others stand around those of the worker that moves
  let front := first.flatMap fun other => other.state.tasks
  let back := last.flatMap fun other => other.state.tasks
  have hsplit : fleet.tasks = front ++ (start.tasks ++ back) := by
    rw [tasks, hbefore, List.flatMap_append, List.flatMap_cons]
  have htasks : (fleet.step (.worker index event)).tasks =
      front ++ ((start.step member.config event).tasks ++ back) := by
    rw [hstep, tasks, List.flatMap_append, List.flatMap_cons]
    rfl
  generalize start.step member.config event = next at hmove hworld htasks
  cases hmove with
  | still hsame hmatches =>
      refine .still (hworld.trans hsame) ?_
      rw [hsplit, htasks]
      exact List.rel_append (Task.matches_self front)
        (List.rel_append hmatches (Task.matches_self back))
  | claimed id hclaimed hsame =>
      refine .claimed id (hworld.trans hclaimed) ?_
      rw [htasks, hsame, hsplit]
  | won job hclaim hclaimed hadded =>
      have hold : fleet.tasks = (front ++ start.tasks) ++ back := by
        rw [hsplit, List.append_assoc]
      refine .won job start.tasks.length hclaim (hworld.trans hclaimed) hold ?_
      rw [htasks, hadded]
      simp only [List.append_assoc, List.singleton_append]
  | @task number event after task entered before later hfind hcancel hmatches hold hmoved hnew =>
      have hwhole : fleet.tasks = (front ++ before) ++ task :: (later ++ back) := by
        rw [hsplit, hold]
        simp only [List.append_assoc, List.cons_append]
      refine .task hmember hfind hcancel hmatches hwhole (hworld.trans hmoved) ?_
      rw [htasks, hnew]
      simp only [List.append_assoc, List.cons_append]
      rfl

/-- Every action makes one of the moves. -/
theorem move_step (hnumbered : fleet.Numbered) {action : Action} (hgenuine : action.IsGenuine) :
    Move fleet action (fleet.step action) := by
  cases action with
  | worker index event =>
      cases hmember : fleet.members[index]? with
      | none =>
          simp only [step, hmember]
          exact .still rfl (Task.matches_self fleet.tasks)
      | some member => exact move_worker hnumbered hmember hgenuine
  | submit id request =>
      unfold step
      dsimp only
      split
      · exact .still rfl (Task.matches_self fleet.tasks)
      · exact .still rfl (Task.matches_self fleet.tasks)
  | submission index event =>
      cases hsubmission : fleet.submissions[index]? with
      | none =>
          simp only [step, hsubmission]
          exact .still rfl (Task.matches_self fleet.tasks)
      | some submission =>
          simp only [step, hsubmission]
          exact .submission hsubmission rfl rfl
  | statement statement => exact .statement rfl rfl

end Fleet

/-! ## Invariants of tasks -/

/-- A property of tasks that holds of new ones and is kept by their events. -/
structure Task.Invariant (config : Config) (property : Task → Prop) : Prop where
  created : ∀ number job, property { number, job }
  asked : ∀ task requested, property task → property { task with cancelRequested := requested }
  step : ∀ event world task, property task → property (task.step config event world).2

namespace State

variable {config : Config} {property : Task → Prop} {state : State}

theorem forall_tasks_updateTask (world : World) {next : Task}
    (hold : ∀ task ∈ state.tasks, property task) (hnext : property next) :
    ∀ task ∈ (state.updateTask world next).tasks, property task := by
  intro task htask
  rw [tasks_updateTask] at htask
  obtain ⟨other, hother, rfl⟩ := List.mem_map.mp htask
  split
  · exact hnext
  · exact hold other hother

theorem forall_tasks_stepTask (h : Task.Invariant config property)
    (hold : ∀ task ∈ state.tasks, property task) (number : Nat) (event : TaskEvent) :
    ∀ task ∈ (state.stepTask config number event).tasks, property task := by
  rcases stepTask_cases config number event state with hstay | ⟨task, requested, hopen, -, hstep⟩
  · rw [hstay]
    exact hold
  · rw [hstep]
    exact forall_tasks_updateTask _ hold
      (h.step _ _ _ (h.asked task requested (hold task (openTask?_eq_some hopen).1)))

theorem forall_tasks_collectJobs (h : Task.Invariant config property)
    (hold : ∀ task ∈ state.tasks, property task) (cancelJobs : Bool) :
    ∀ task ∈ (state.collectJobs cancelJobs).tasks, property task := by
  obtain ⟨numbers, htasks, -⟩ := state.exists_tasks_collectJobs cancelJobs
  intro task htask
  rw [htasks] at htask
  obtain ⟨other, hother, rfl⟩ := List.mem_map.mp htask
  unfold asked
  split
  · exact h.asked other true (hold other hother)
  · exact hold other hother

theorem forall_tasks_register (h : Task.Invariant config property)
    (hold : ∀ task ∈ state.tasks, property task) (job : Job) :
    ∀ task ∈ (state.register job).tasks, property task := by
  intro task htask
  rcases List.mem_append.mp htask with hbefore | hlast
  · exact hold task hbefore
  · rw [List.mem_singleton.mp hlast]
    exact h.created state.tasks.length job

/-- Every task of a worker has the invariants of tasks. -/
theorem forall_tasks_step (h : Task.Invariant config property)
    (hold : ∀ task ∈ state.tasks, property task) (event : Event) :
    ∀ task ∈ (state.step config event).tasks, property task := by
  have hchange := change_step config event state
  generalize state.step config event = after at hchange ⊢
  cases hchange with
  | idle hsame hidle =>
      rw [hsame.tasks]
      exact hold
  | won job hclaim hwon hsame =>
      -- the claim itself leaves the tasks alone
      have hclaimed : ∀ task ∈ (state.claimRow job.id).2.tasks, property task := hold
      rw [hsame.tasks]
      exact forall_tasks_register h hclaimed job
  | lost id hsame hidle =>
      rw [hsame.tasks]
      exact hold
  | stubbed job hsame =>
      rw [hsame.tasks]
      exact forall_tasks_register h hold job
  | task number event => exact forall_tasks_stepTask h hold number event
  | stopping cancelJobs hidle => exact forall_tasks_collectJobs h hold cancelJobs
  | stopped => exact hold

end State

namespace Fleet

/-- Every task of a fleet has a property that may depend on the set-up of its worker. -/
def ForallTasks (property : Config → Task → Prop) (fleet : Fleet) : Prop :=
  ∀ member ∈ fleet.members, ∀ task ∈ member.state.tasks, property member.config task

theorem forallTasks_step {property : Config → Task → Prop}
    (h : ∀ config, Task.Invariant config (property config)) {fleet : Fleet}
    (hold : fleet.ForallTasks property) (action : Action) :
    (fleet.step action).ForallTasks property := by
  cases action with
  | worker index event =>
      cases hmember : fleet.members[index]? with
      | none =>
          simpa [step, hmember] using hold
      | some member =>
          obtain ⟨first, last, hbefore, hstep⟩ := exists_step_worker hmember event
          have hstart : ∀ task ∈ ({ member.state with world := fleet.world } : State).tasks,
              property member.config task :=
            hold member (List.mem_of_getElem? hmember)
          have hmoved := State.forall_tasks_step (h member.config) hstart event
          rw [hstep]
          intro other hother
          rcases List.mem_append.mp hother with hfirst | hrest
          · exact hold other (hbefore ▸ List.mem_append_left _ hfirst)
          · rcases List.mem_cons.mp hrest with rfl | hlast
            · exact hmoved
            · exact hold other
                (hbefore ▸ List.mem_append_right _ (List.mem_cons_of_mem _ hlast))
  | submit id request =>
      unfold step
      dsimp only
      split <;> exact hold
  | submission index event =>
      unfold step
      dsimp only
      split <;> exact hold
  | statement statement => exact hold

theorem forallTasks_of_isFresh {fleet : Fleet} (h : fleet.IsFresh)
    (property : Config → Task → Prop) : fleet.ForallTasks property := by
  intro member hmember task htask
  rw [h member hmember] at htask
  cases htask

/-- Every task of any run of a fleet has the invariants of tasks. -/
theorem forallTasks_run {property : Config → Task → Prop}
    (h : ∀ config, Task.Invariant config (property config)) {fleet : Fleet}
    (hold : fleet.ForallTasks property) (actions : List Action) :
    (fleet.run actions).ForallTasks property := by
  induction actions generalizing fleet with
  | nil => exact hold
  | cons action rest ih => exact ih (forallTasks_step h hold action)

end Fleet

end Montage.Worker
