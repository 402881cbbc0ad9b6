/-
  Montage.Proofs.Worker.Forsaken

  What a task leaves in the row of its job.  A task that is over has settled the row, unless
  it was forsaken: it was cancelled before its first step, or the statement about its end had
  no effect.
-/
import Montage.Proofs.Worker.Ending
import Montage.Proofs.Worker.History

namespace Montage.Jobs.Store

variable {id other : JobId} {store after : Store}

/-! ## Rows that have come to an end -/

/-- Whether the row of a job says how the job ended. -/
def IsSettled (id : JobId) (store : Store) : Prop :=
  store.status? id = some .completed ∨ store.status? id = some .failed

theorem hasLeft_of_status {status : Status} (h : store.status? id = some status)
    (hne : status ≠ .queued) : store.HasLeft id := by
  obtain ⟨job, hfind, hstatus⟩ := Option.map_eq_some_iff.mp h
  exact ⟨job, hfind, hstatus.trans_ne hne⟩

theorem IsSettled.hasLeft (h : store.IsSettled id) : store.HasLeft id := by
  rcases h with hcompleted | hfailed
  · exact hasLeft_of_status hcompleted nofun
  · exact hasLeft_of_status hfailed nofun

/-- A claim takes no other job out of the queue than the one it is for. -/
theorem eq_of_claim (hbefore : store.status? id = some .queued)
    (hafter : (store.claim other).2.status? id = some .processing) :
    other = id ∧ (store.claim id).1 = true := by
  rcases status?_claim id other store with hsame | htaken
  · rw [hsame, hbefore] at hafter
    cases hafter
  · exact htaken

theorem isSettled_finished {row : Job} (h : store.find? id = some row) (url : Option String) :
    (store.update id (Job.finished url)).IsSettled id := by
  refine .inl ?_
  rw [status?_update_self id (Job.finished url) (fun _ => rfl), h]
  rfl

theorem isSettled_failed {row : Job} (h : store.find? id = some row) (message : Option String) :
    (store.update id (Job.failed message)).IsSettled id := by
  refine .inr ?_
  rw [status?_update_self id (Job.failed message) (fun _ => rfl), h]
  rfl

/-- What a task writes leaves the status of a job alone, or settles its row. -/
theorem status?_writes {overlooked : Prop} {goesOn : Bool} {row : Job}
    (hfind : store.find? id = some row) (h : Writes overlooked other store goesOn after) :
    after.status? id = store.status? id ∨ after.IsSettled id := by
  cases h with
  | idle => exact .inl rfl
  | reported _ progress => exact .inl (status?_reported id other progress store)
  | finished _ url =>
      by_cases hother : other = id
      · subst hother
        exact .inr (isSettled_finished hfind url)
      · exact .inl (status?_update_ne hother (Job.finished url) (fun _ => rfl) store)
  | failed message =>
      by_cases hother : other = id
      · subst hother
        exact .inr (isSettled_failed hfind message)
      · exact .inl (status?_update_ne hother (Job.failed message) (fun _ => rfl) store)

namespace IsSettled

theorem keep (h : store.IsSettled id) (hsame : after.status? id = store.status? id) :
    after.IsSettled id := by
  rw [IsSettled, hsame]
  exact h

theorem ne_queued (h : store.IsSettled id) : store.status? id ≠ some .queued :=
  h.elim (fun h => h.trans_ne nofun) fun h => h.trans_ne nofun

theorem ne_processing (h : store.IsSettled id) : store.status? id ≠ some .processing :=
  h.elim (fun h => h.trans_ne nofun) fun h => h.trans_ne nofun

theorem claim (h : store.IsSettled id) (other : JobId) : (store.claim other).2.IsSettled id := by
  rcases status?_claim id other store with hsame | ⟨-, hclaim⟩
  · exact h.keep hsame
  · exact absurd (status?_of_claim hclaim).1 h.ne_queued

theorem insert {createdAt : Int} {draft : Draft} {job : Job} (h : store.IsSettled id)
    (hinsert : store.insert other createdAt draft = .ok (job, after)) : after.IsSettled id := by
  rcases status?_insert hinsert id with hsame | ⟨hnone, -⟩
  · exact h.keep hsame
  · obtain ⟨row, hfind, -⟩ := h.hasLeft
    rw [status?, hfind] at hnone
    cases hnone

theorem writes {overlooked : Prop} {goesOn : Bool} (h : store.IsSettled id)
    (hwrites : Writes overlooked other store goesOn after) : after.IsSettled id := by
  obtain ⟨row, hfind, -⟩ := h.hasLeft
  rcases status?_writes hfind hwrites with hkept | hsettled
  · exact h.keep hkept
  · exact hsettled

end IsSettled

end Montage.Jobs.Store

namespace Montage.Worker

open Montage.Jobs Montage.Storage

/-! ## Tasks -/

/-- Whether a call has had its effect when it is answered. -/
def Reply.takesEffect : Reply → Bool
  | .genuine => true
  | .instead _ => false
  | .raises _ committed => committed

/-- Whether an event ends a task without a word about it in the row of its job.  The task is
    cancelled before its first step, or the statement that tells of its end has no effect. -/
def Task.forsakes (event : TaskEvent) (store : Store) (task : Task) : Bool :=
  match event, task.phase with
  | .cancel _, .created => true
  | .completionWritten (.instead _), .completing _ => true
  | .failureWritten reply, .failing _ _ =>
    !(reply.takesEffect && (task.pendingWrite store).isOk)
  | .cancel committed, .failing _ _ => !(committed && (task.pendingWrite store).isOk)
  | _, _ => false

theorem World.write_of_takesEffect {reply : Reply} (h : reply.takesEffect = true)
    (change : Store → Except Fault Store) (world : World) :
    (world.write change reply).2 = (world.change change).2 := by
  cases reply with
  | genuine => rfl
  | «instead» value => cases h
  | raises fault committed => exact if_pos h

/-- A statement that is not carried out leaves the table as it is. -/
theorem World.change_of_not_isOk {change : Store → Except Fault Store} {world : World}
    (h : (change world.store).isOk = false) : (world.change change).2 = world := by
  cases hchange : change world.store with
  | ok after =>
      rw [hchange] at h
      cases h
  | error fault => rw [World.change_of_error hchange]

theorem World.write_of_not_isOk {change : Store → Except Fault Store} {reply : Reply}
    {world : World} (h : (reply.takesEffect && (change world.store).isOk) = false) :
    (world.write change reply).2 = world := by
  rcases Bool.and_eq_false_iff.mp h with hreply | hchange
  · cases reply with
    | genuine => cases hreply
    | «instead» value => rfl
    | raises fault committed => exact if_neg (Bool.eq_false_iff.mp hreply)
  · cases reply with
    | genuine => exact World.change_of_not_isOk hchange
    | «instead» value => rfl
    | raises fault committed =>
        cases committed with
        | true => exact World.change_of_not_isOk hchange
        | false => rfl

namespace Task

variable {config : Config} {task : Task} {event : TaskEvent} {world : World}

theorem over_conclude (config : Config) (ending : Ending) (world : World) (task : Task) :
    (task.conclude config ending world).2.isOver = true ∧
      (task.conclude config ending world).1.store = world.store := by
  rw [conclude, World.store_onFiles]
  exact ⟨rfl, rfl⟩

/-- A failure that is recorded settles the row. -/
theorem isSettled_failure {message : String} {cancelled : Bool}
    (hphase : task.phase = .failing message cancelled)
    (hok : (task.pendingWrite world.store).isOk = true)
    (hleft : world.store.HasLeft task.job.id) :
    (world.change task.pendingWrite).2.store.IsSettled task.job.id := by
  obtain ⟨after, hafter⟩ := exists_of_isOk hok
  rw [World.change_of_ok hafter]
  simp only [pendingWrite, hphase] at hafter
  obtain ⟨value, -, rfl⟩ := Store.markFailed_eq_ok hafter
  obtain ⟨row, hfind, -⟩ := hleft
  exact Store.isSettled_failed hfind value

theorem settles_cancelAt (hopen : task.isOver = false) (hleft : world.store.HasLeft task.job.id)
    {committed : Bool} (hkept : task.forsakes (.cancel committed) world.store = false)
    (hover : (task.cancelAt config committed world).2.isOver = true) :
    (task.cancelAt config committed world).1.store.IsSettled task.job.id := by
  revert hover
  unfold cancelAt
  dsimp only
  split
  -- before its first step a task is always forsaken
  next hphase =>
    simp [forsakes, hphase] at hkept
  next =>
    intro hover
    rw [isOver_useRun] at hover
    cases hover
  next message cancelled hphase =>
    intro _
    simp only [forsakes, hphase, Bool.not_eq_false', Bool.and_eq_true] at hkept
    obtain ⟨hcommitted, hok⟩ := hkept
    rw [conclude, World.store_onFiles, if_pos hcommitted]
    exact isSettled_failure hphase hok hleft
  next ending hphase =>
    rw [isOver, hphase] at hopen
    cases hopen
  next =>
    intro hover
    cases hover

/-- A task that has not been forsaken leaves a row behind that says how the job ended. -/
theorem settles_step (hopen : task.isOver = false) (hleft : world.store.HasLeft task.job.id)
    (hkept : task.forsakes event world.store = false)
    (hover : (task.step config event world).2.isOver = true) :
    (task.step config event world).1.store.IsSettled task.job.id := by
  -- in most phases the task goes on; it may be over where it writes down how it has ended
  have hstays : ∀ result : World × Task, result.2.isOver = false → result.2.isOver = true →
      result.1.store.IsSettled task.job.id := by
    intro result hopen hover
    rw [hopen] at hover
    cases hover
  revert hover
  unfold step
  split
  · split
    · exact hstays _ rfl
    · exact hstays _ rfl
  · split
    · exact hstays _ (isOver_useText config _ _ task)
    · exact hstays _ rfl
  · split
    · exact hstays _ (isOver_useAsset config _ _ task)
    · exact hstays _ hopen
  · exact hstays _ rfl
  · exact hstays _ rfl
  · exact hstays _ (isOver_useRun _ task)
  · split
    · exact hstays _ (isOver_useRun _ task)
    · exact hstays _ hopen
  · split
    · exact hstays _ rfl
    · exact hstays _ rfl
  · split
    · exact hstays _ rfl
    · exact hstays _ rfl
  next reply url hphase =>
    split
    next written hwrite =>
      intro _
      rw [conclude, World.store_onFiles]
      cases reply with
      | genuine =>
          cases hchange : task.pendingWrite world.store with
          -- a refused statement is a failure, and the task goes on to write that down
          | error fault =>
              rw [World.write, World.change_of_error hchange] at hwrite
              cases hwrite
          | ok after =>
              rw [World.write, World.change_of_ok hchange] at hwrite
              cases hwrite
              simp only [pendingWrite, hphase] at hchange
              obtain ⟨value, -, rfl⟩ := Store.markCompleted_eq_ok hchange
              obtain ⟨row, hfind, -⟩ := hleft
              exact Store.isSettled_finished hfind value
      | «instead» value => simp [forsakes, hphase] at hkept
      | raises fault committed => cases hwrite
    next => exact hstays _ rfl
  next reply message cancelled hphase =>
    intro _
    simp only [forsakes, hphase, Bool.not_eq_false', Bool.and_eq_true] at hkept
    obtain ⟨hreply, hok⟩ := hkept
    rw [conclude, World.store_onFiles, World.write_of_takesEffect hreply]
    exact isSettled_failure hphase hok hleft
  · exact settles_cancelAt hopen hleft hkept
  · exact hstays _ hopen

/-- A task that is forsaken is over, and the table is as it was. -/
theorem step_of_forsakes (h : task.forsakes event world.store = true) :
    (task.step config event world).2.isOver = true ∧
      (task.step config event world).1.store = world.store := by
  unfold forsakes at h
  split at h
  next committed hphase =>
    -- a task that has not begun has nothing to write
    have hpending : task.pendingWrite = .ok := by
      funext store
      simp only [pendingWrite, hphase]
    rw [step_cancel]
    unfold cancelAt
    rw [hphase, hpending]
    cases committed <;> exact ⟨rfl, rfl⟩
  next value url hphase =>
    unfold step
    rw [hphase]
    exact over_conclude config .finished world task
  next reply message cancelled hphase =>
    rw [Bool.not_eq_true'] at h
    unfold step
    rw [hphase]
    dsimp only
    rw [World.write_of_not_isOk h]
    exact over_conclude config _ world task
  next committed message cancelled hphase =>
    rw [Bool.not_eq_true'] at h
    have hworld : (if committed then (world.change task.pendingWrite).2 else world) = world := by
      cases committed with
      | true => exact World.change_of_not_isOk h
      | false => rfl
    rw [step_cancel]
    unfold cancelAt
    rw [hphase, hworld]
    exact over_conclude config .cancelled world task
  next => cases h

end Task

/-! ## Workers -/

namespace State

variable {config : Config} {state : State} {event : Event} {id : JobId} {number : Nat}

/-- The job whose task an event ends without a word in the row. -/
def forsaken? (event : Event) (state : State) : Option JobId :=
  match event with
  | .task number event =>
    (state.openTask? number).bind fun task =>
      if task.accepts event && task.forsakes event state.world.store then some task.job.id else none
  | _ => none

theorem taskJobs_of_openTask? (hnumbered : state.Numbered) {task : Task}
    (hfind : state.openTask? number = some task) :
    state.taskJobs[number]? = some task.job.id := by
  obtain ⟨hmem, hnumber, -⟩ := openTask?_eq_some hfind
  obtain ⟨index, hlt, hindex⟩ := List.mem_iff_getElem.mp hmem
  -- the number of a task is its place among the tasks
  have hplace : (state.tasks.map Task.number)[index]? = some task.number := by
    rw [List.getElem?_map, List.getElem?_eq_getElem hlt, hindex]
    rfl
  rw [hnumbered, List.getElem?_range hlt, Option.some.injEq] at hplace
  rw [← hnumber, ← hplace, taskJobs, List.getElem?_map, List.getElem?_eq_getElem hlt, hindex]
  rfl

/-- A task that goes on works on the same job. -/
theorem job_of_openTask?_step (hgenuine : Genuine event) (hnumbered : state.Numbered)
    {task next : Task} (hfind : state.openTask? number = some task)
    (hnext : (state.step config event).openTask? number = some next) :
    next.job.id = task.job.id := by
  have hturn := turn_step hgenuine hnumbered config
  have hbefore := taskJobs_of_openTask? hnumbered hfind
  have hafter := taskJobs_of_openTask? hturn.numbered hnext
  obtain ⟨hlt, -⟩ := List.getElem?_eq_some_iff.mp hbefore
  rw [hturn.jobs, List.getElem?_append_left hlt, hbefore] at hafter
  exact (Option.some.inj hafter).symm

/-- A task that is over after an event has settled the row of its job, or was forsaken. -/
theorem settled_or_forsaken {task : Task} (hfind : state.openTask? number = some task)
    (hleft : state.world.store.HasLeft task.job.id)
    (hover : (state.step config event).openTask? number = none) :
    (state.step config event).world.store.IsSettled task.job.id ∨
      state.forsaken? event = some task.job.id := by
  obtain ⟨-, -, hopen⟩ := openTask?_eq_some hfind
  obtain ⟨taskEvent, rfl⟩ := exists_task_of_over hfind hover
  obtain ⟨requested, hcancel, hstep, hends⟩ := exists_step_of_over hfind hover
  by_cases hforsakes : task.forsakes taskEvent state.world.store = true
  · have haccepts : task.accepts taskEvent = true := by
      cases taskEvent with
      | cancel committed => exact hcancel committed rfl
      | _ => rfl
    refine .inr ?_
    simp only [forsaken?, hfind, Option.bind_some, haccepts, hforsakes, Bool.and_self, if_true]
  · refine .inl ?_
    rw [step, hstep, world_updateTask]
    exact @Task.settles_step config { task with cancelRequested := requested } taskEvent state.world
      hopen hleft (Bool.eq_false_iff.mpr hforsakes) hends

theorem exists_step_of_accepts {task : Task} (hfind : state.openTask? number = some task)
    {event : TaskEvent} (haccepts : task.accepts event = true) (config : Config) :
    ∃ requested, state.stepTask config number event =
      state.updateTask
        (({ task with cancelRequested := requested } : Task).step config event state.world).1
        (({ task with cancelRequested := requested } : Task).step config event state.world).2 := by
  cases event with
  | cancel committed =>
      refine ⟨false, ?_⟩
      rw [stepTask, hfind, Task.step_cancel]
      exact if_pos haccepts
  | _ =>
      refine ⟨task.cancelRequested, stepTask_of_open hfind config _ ?_⟩
      intro committed heq
      cases heq

/-- A job that is forsaken has one task less that works on it, and its row is as it was. -/
theorem count_openJobs_of_forsaken (hnumbered : state.Numbered)
    (h : state.forsaken? event = some id) (config : Config) :
    (openJobs (state.step config event).tasks).count id + 1 = (openJobs state.tasks).count id ∧
      (state.step config event).world.store = state.world.store := by
  unfold forsaken? at h
  split at h
  next number taskEvent =>
    obtain ⟨task, hfind, hjob⟩ := Option.bind_eq_some_iff.mp h
    split at hjob
    next hevent =>
      obtain rfl := Option.some.inj hjob
      obtain ⟨haccepts, hforsakes⟩ := (Bool.and_eq_true _ _).mp hevent
      obtain ⟨hmem, -, hopen⟩ := openTask?_eq_some hfind
      obtain ⟨requested, hstep⟩ := exists_step_of_accepts hfind haccepts config
      obtain ⟨hover, hstore⟩ := @Task.step_of_forsakes config
        { task with cancelRequested := requested } taskEvent state.world hforsakes
      have hlater := (Task.keeps_step config taskEvent state.world
        { task with cancelRequested := requested }).later
      obtain ⟨first, last, hbefore, hafter⟩ := exists_setTask hnumbered hmem hlater.number
      rw [step, hstep, world_updateTask, tasks_updateTask, hafter, hbefore]
      refine ⟨?_, hstore⟩
      rw [openJobs_append, openJobs_append, openJobs_cons, openJobs_cons, hover, hopen]
      simp only [List.count_append, Bool.not_true, Bool.not_false, if_true, Bool.false_eq_true,
        if_false, List.count_nil, List.count_singleton_self]
      omega
    next => cases hjob
  next => cases h

end State

/-! ## Rows that stay settled -/

/-- Whatever statement is made, a row that has come to an end stays at one. -/
theorem Statement.isSettled_run {id : JobId} {world : World} (h : world.store.IsSettled id)
    (statement : Statement) : (statement.run world).store.IsSettled id := by
  cases statement with
  | claim other => exact h.claim other
  | setProgress other progress => exact h.keep (Statement.status?_setProgress id other progress world)
  | markCompleted other url =>
      rw [Statement.run]
      cases hmark : world.store.markCompleted other url with
      | ok after =>
          obtain ⟨value, -, rfl⟩ := Store.markCompleted_eq_ok hmark
          rw [World.change_of_ok hmark]
          exact h.writes (.finished true value fun _ => trivial)
      | error fault =>
          rw [World.change_of_error hmark]
          exact h
  | markFailed other message =>
      rw [Statement.run]
      cases hmark : world.store.markFailed other message with
      | ok after =>
          obtain ⟨value, -, rfl⟩ := Store.markFailed_eq_ok hmark
          rw [World.change_of_ok hmark]
          exact h.writes (@Store.Writes.failed True other world.store value)
      | error fault =>
          rw [World.change_of_error hmark]
          exact h

namespace Fleet

variable {fleet : Fleet} {actions : List Action} {action : Action} {id : JobId}

/-- A row that has come to an end stays at one. -/
theorem isSettled_step (hnumbered : fleet.Numbered) (hgenuine : action.IsGenuine)
    (h : fleet.world.store.IsSettled id) : (fleet.step action).world.store.IsSettled id := by
  have hmove := move_step hnumbered hgenuine
  generalize fleet.step action = after at hmove ⊢
  cases hmove with
  | still hworld => rwa [hworld]
  | claimed other hworld =>
      rw [hworld]
      exact h.claim other
  | won job number hclaim hworld =>
      rw [hworld]
      exact h.claim job.id
  | @task _ _ event _ member _ start _ _ _ _ _ _ _ hworld =>
      rw [hworld]
      exact h.writes (start.writes_step member.config event fleet.world)
  | @submission _ event _ submission _ hworld =>
      rw [hworld]
      rcases Submission.store_step fleet.input event fleet.world submission with
        hsame | ⟨createdAt, job, hinsert⟩
      · rwa [hsame]
      · exact h.insert hinsert
  | statement hworld =>
      rw [hworld]
      exact Statement.isSettled_run h _

theorem isSettled_run (hnumbered : fleet.Numbered) (hgenuine : ∀ action ∈ actions, action.IsGenuine)
    (h : fleet.world.store.IsSettled id) : (fleet.run actions).world.store.IsSettled id := by
  induction actions generalizing fleet with
  | nil => exact h
  | cons action rest ih =>
      obtain ⟨hnow, hrest⟩ := List.forall_mem_cons.mp hgenuine
      exact ih (turn_step hnow hnumbered).numbered hrest (isSettled_step hnumbered hnow h)

end Fleet

end Montage.Worker
