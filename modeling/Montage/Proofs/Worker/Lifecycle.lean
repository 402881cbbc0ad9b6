/-
  Montage.Proofs.Worker.Lifecycle

  The rows of a table that workers and submissions share.  Whatever they do, in any order,
  the columns of every row agree with its status: a row is changed only for a job that is
  being processed, by the one task that works on it.
-/
import Montage.Proofs.Worker.Moves
import Montage.Proofs.Worker.Work

namespace Montage.Worker

open Montage.Jobs Montage.Storage

/-! ## Tasks and the table -/

/-- The jobs of the tasks that are not over. -/
def openJobs (tasks : List Task) : List JobId :=
  (tasks.filter fun task => !task.isOver).map fun task => task.job.id

theorem openJobs_append (first last : List Task) :
    openJobs (first ++ last) = openJobs first ++ openJobs last := by
  simp [openJobs]

theorem openJobs_cons (task : Task) (rest : List Task) :
    openJobs (task :: rest) = (if !task.isOver then [task.job.id] else []) ++ openJobs rest := by
  cases h : task.isOver <;> simp [openJobs, h]

theorem Task.Matches.isOver {task other : Task} (h : task.Matches other) :
    other.isOver = task.isOver := by
  rw [Task.isOver, Task.isOver, h.phase]

theorem openJobs_of_matches {before after : List Task}
    (h : List.Forall₂ Task.Matches before after) : openJobs after = openJobs before := by
  induction h with
  | nil => rfl
  | cons hhead _ ih => rw [openJobs_cons, openJobs_cons, ih, hhead.isOver, hhead.job]

/-- A table and all tasks that work on its jobs. -/
structure Sound (store : Store) (tasks : List Task) : Prop where
  busy : store.Busy (openJobs tasks)
  phases : ∀ task ∈ tasks, task.phase.Sound

namespace Sound

variable {store : Store} {first last : List Task}

theorem idle (h : store.Consistent) : Sound store [] := by
  refine ⟨⟨h, List.nodup_nil, fun id hid => ?_⟩, fun task htask => ?_⟩
  · exact absurd hid List.not_mem_nil
  · exact absurd htask List.not_mem_nil

/-- Only the jobs and the phases of the tasks count. -/
theorem matched {before after : List Task} (h : Sound store before)
    (hmatches : List.Forall₂ Task.Matches before after) : Sound store after := by
  refine ⟨?_, fun task htask => ?_⟩
  · rw [openJobs_of_matches hmatches]
    exact h.busy
  · obtain ⟨other, hother, hsame⟩ := Task.exists_of_matches hmatches htask
    rw [hsame.phase]
    exact h.phases other hother

theorem claim {tasks : List Task} (h : Sound store tasks) (id : JobId) :
    Sound (store.claim id).2 tasks :=
  ⟨h.busy.claim id, h.phases⟩

/-- A job that is won gets a task. -/
theorem won (h : Sound store (first ++ last)) {job : Job}
    (hclaim : (store.claim job.id).1 = true) (number : Nat) :
    Sound (store.claim job.id).2 (first ++ { number, job } :: last) := by
  constructor
  · have hbusy := h.busy
    rw [openJobs_append] at hbusy
    rw [openJobs_append, openJobs_cons]
    exact hbusy.won hclaim
  · intro task htask
    rcases List.mem_append.mp htask with hfirst | hrest
    · exact h.phases task (List.mem_append_left _ hfirst)
    · rcases List.mem_cons.mp hrest with rfl | hlast
      · exact trivial
      · exact h.phases task (List.mem_append_right _ hlast)

/-- A task that is not over takes a step. -/
theorem work {world : World} {task : Task} (h : Sound world.store (first ++ task :: last))
    (hopen : task.isOver = false) {result : World × Task} (hworks : task.Works world result)
    (hjob : result.2.job = task.job) :
    Sound result.1.store (first ++ result.2 :: last) := by
  constructor
  · have hbusy := h.busy
    rw [openJobs_append, openJobs_cons, hopen] at hbusy
    rw [openJobs_append, openJobs_cons, hjob]
    exact hbusy.work hworks.table
  · intro other hother
    rcases List.mem_append.mp hother with hfirst | hrest
    · exact h.phases other (List.mem_append_left _ hfirst)
    · rcases List.mem_cons.mp hrest with rfl | hlast
      · exact hworks.sound
      · exact h.phases other (List.mem_append_right _ (List.mem_cons_of_mem _ hlast))

end Sound

/-- What can be relied on in an event of a worker. -/
def Event.IsFaithful : Event → Prop
  | .task _ event => event.IsFaithful
  | _ => True

/-! ## Submissions -/

namespace Submission

theorem busy_step {world : World} {jobs : List JobId} (h : world.store.Busy jobs) (input : Bucket)
    (event : SubmissionEvent) (submission : Submission) :
    (submission.step input event world).1.store.Busy jobs := by
  rcases store_step input event world submission with hsame | ⟨createdAt, job, hinsert⟩
  · rw [hsame]
    exact h
  · exact h.insert hinsert

end Submission

/-! ## Fleets -/

/-- What can be relied on in an action: of the statements of others, only claims are made. -/
def Action.IsFaithful : Action → Prop
  | .worker _ event => event.IsFaithful
  | .statement (.claim _) => True
  | .statement _ => False
  | _ => True

namespace Fleet

variable {fleet : Fleet} {actions : List Action}

/-- Every action keeps the table and all tasks sound. -/
theorem sound_step (hnumbered : fleet.Numbered) (h : Sound fleet.world.store fleet.tasks)
    {action : Action} (hgenuine : action.IsGenuine) (haction : action.IsFaithful) :
    Sound (fleet.step action).world.store (fleet.step action).tasks := by
  have hmove := move_step hnumbered hgenuine
  generalize fleet.step action = after at hmove ⊢
  cases hmove with
  | still hworld htasks =>
      rw [hworld]
      exact h.matched htasks
  | claimed id hworld htasks =>
      rw [hworld, htasks]
      exact h.claim id
  | won job number hclaim hworld hbefore htasks =>
      rw [hworld, htasks]
      rw [hbefore] at h
      exact h.won hclaim number
  | @task _ _ event _ member task start _ _ _ hfind _ hstart hbefore hworld htasks =>
      rw [hbefore] at h
      have hopen : start.isOver = false :=
        hstart.isOver.trans (State.openTask?_eq_some hfind).2.2
      have hentered := h.matched (Task.matches_replace hstart)
      have hphase : start.phase.Sound := hentered.phases start (by simp)
      have hworks := Task.works_step member.config haction fleet.world hphase
      have hlater := (start.keeps_step member.config event fleet.world).later
      rw [hworld, htasks]
      exact hentered.work hopen hworks hlater.job
  | submission hsubmission hworld htasks =>
      rw [hworld, htasks]
      exact ⟨Submission.busy_step h.busy _ _ _, h.phases⟩
  | @statement statement _ hworld htasks =>
      rw [hworld, htasks]
      cases statement with
      | claim id => exact h.claim id
      | _ => exact haction.elim

theorem sound_run (hnumbered : fleet.Numbered) (h : Sound fleet.world.store fleet.tasks)
    (hgenuine : ∀ action ∈ actions, action.IsGenuine)
    (hfaithful : ∀ action ∈ actions, action.IsFaithful) :
    Sound (fleet.run actions).world.store (fleet.run actions).tasks := by
  induction actions generalizing fleet with
  | nil => exact h
  | cons action rest ih =>
      obtain ⟨hgenuineNow, hgenuineRest⟩ := List.forall_mem_cons.mp hgenuine
      obtain ⟨hfaithfulNow, hfaithfulRest⟩ := List.forall_mem_cons.mp hfaithful
      have hturn := turn_step hgenuineNow hnumbered
      have hnext := sound_step hnumbered h hgenuineNow hfaithfulNow
      exact ih hturn.numbered hnext hgenuineRest hfaithfulRest

theorem tasks_of_isFresh (h : fleet.IsFresh) : fleet.tasks = [] := by
  rw [tasks, List.flatMap_eq_nil_iff]
  exact h

/-- Whatever workers and submissions do, in any order, the columns of every row agree with
    its status. -/
theorem run_consistent (hfresh : fleet.IsFresh) (hstore : fleet.world.store.Consistent)
    (hgenuine : ∀ action ∈ actions, action.IsGenuine)
    (hfaithful : ∀ action ∈ actions, action.IsFaithful) :
    ∀ job ∈ (fleet.run actions).world.store.jobs, job.Consistent := by
  have hstart : Sound fleet.world.store fleet.tasks := by
    rw [tasks_of_isFresh hfresh]
    exact .idle hstore
  have hend := sound_run (numbered_of_isFresh hfresh) hstart hgenuine hfaithful
  exact hend.busy.consistent.rows

/-! ## Two exports -/

/-- Two workers and two queued jobs. -/
def samplePair : Fleet :=
  { sampleFleet with
    world := { store := ⟨[sampleRow, { sampleRow with id := ⟨8⟩, createdAt := 1 }]⟩ } }

/-- One worker exports a timeline without elements, and the other cannot read its own. -/
def sampleExports : List Action :=
  [.worker 0 .poll, .worker 0 (.fetched 0 .genuine), .worker 0 (.claimed 0 .genuine),
   .worker 1 .poll, .worker 1 (.fetched 0 .genuine), .worker 1 (.claimed 0 .genuine),
   .worker 0 (.task 0 .begin), .worker 1 (.task 0 .begin),
   .worker 1 (.task 0 (.read (.raises (.unreachable "down") false))),
   .worker 1 (.task 0 (.failureWritten .genuine)),
   .worker 0 (.task 0 (.read (.instead
     (.str "\x7b\"project\": \x7b\"canvasSize\": \x7b\"width\": 640, \"height\": 360\x7d\x7d\x7d")))),
   .worker 0 (.task 0 (.launched none)), .worker 0 (.task 0 (.engine .endOfStream)),
   .worker 0 (.task 0 (.engine (.exited 0))), .worker 0 (.task 0 (.uploaded (.instead .null))),
   .worker 0 (.task 0 (.signed (.instead (.str "https://media.test/export.mp4")))),
   .worker 0 (.task 0 (.completionWritten .genuine))]

theorem consistent_samplePair : samplePair.world.store.Consistent := by
  refine ⟨by decide, ?_⟩
  simp [samplePair, sampleFleet, sampleRow, Job.Consistent, Job.unsettled_iff]

theorem run_consistent_sampleExports :
    (samplePair.run sampleExports).world.store.jobs.map Job.status = [.completed, .failed] ∧
      ∀ job ∈ (samplePair.run sampleExports).world.store.jobs, job.Consistent := by
  have hfresh : samplePair.IsFresh := by
    simp [samplePair, sampleFleet, IsFresh]
  have hgenuine : ∀ action ∈ sampleExports, action.IsGenuine := by
    simp [sampleExports, Action.IsGenuine, State.Genuine]
  have hfaithful : ∀ action ∈ sampleExports, action.IsFaithful := by
    simp [sampleExports, Action.IsFaithful, Event.IsFaithful, TaskEvent.IsFaithful,
      Engine.Event.HasCode]
  exact ⟨by decide +kernel, run_consistent hfresh consistent_samplePair hgenuine hfaithful⟩

end Fleet

end Montage.Worker
