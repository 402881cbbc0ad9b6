/-
  Montage.Proofs.Worker.Shutdown

  What a worker that stops has done with its jobs.  The shutdown waits for the tasks of the jobs
  that are in flight when it turns to them.  When it returns, each job that the worker has taken
  out of the queue has come to an end, or it was left behind, or its claim was answered too late
  for the shutdown to wait for it.
-/
import Montage.Proofs.Worker.Cleanup
import Montage.Proofs.Worker.LeftBehind

namespace Montage.Worker

open Montage.Jobs

namespace State

variable {config : Config} {state : State} {event : Event} {entry : JobId × Nat}

/-! ## Tasks that are not over -/

theorem openEntries_map_asked (numbers : List Nat) (tasks : List Task) :
    openEntries (tasks.map (asked numbers)) = openEntries tasks := by
  have hasked : ∀ task, (asked numbers task).number = task.number ∧
      (asked numbers task).job = task.job ∧
      (asked numbers task).isOver = task.isOver := by
    intro task
    unfold asked
    split <;> exact ⟨rfl, rfl, rfl⟩
  simp [openEntries, List.filter_map, Function.comp_def, hasked]

theorem openEntries_cons_subset {task next : Task} (hopen : task.isOver = false)
    (hlater : Task.Later task next) (rest : List Task) :
    openEntries (next :: rest) ⊆ openEntries (task :: rest) := by
  rw [openEntries_cons_of_open hopen, ← hlater.job, ← hlater.number]
  cases hover : next.isOver with
  | false =>
      rw [openEntries_cons_of_open hover]
      exact List.Subset.refl _
  | true =>
      rw [openEntries_cons_of_over hover]
      exact List.subset_cons_self _ _

theorem mem_openEntries_stepTask (hnumbered : state.Numbered) {number : Nat} {event : TaskEvent}
    (h : entry ∈ openEntries (state.stepTask config number event).tasks) :
    entry ∈ openEntries state.tasks := by
  rcases stepTask_cases config number event state with hstay | ⟨task, requested, hfind, -, hstep⟩
  · rwa [hstay] at h
  · obtain ⟨hmem, -, hopen⟩ := openTask?_eq_some hfind
    have hlater := (Task.keeps_step config event state.world
      { task with cancelRequested := requested }).later
    obtain ⟨first, last, hbefore, hafter⟩ := exists_setTask hnumbered hmem hlater.number
    have hless := openEntries_cons_subset hopen ⟨hlater.number, hlater.job, hlater.begun⟩ last
    rw [hstep, tasks_updateTask, hafter, openEntries_append] at h
    rw [hbefore, openEntries_append]
    exact (List.mem_append.mp h).elim (List.mem_append_left _) fun hlast =>
      List.mem_append_right _ (hless hlast)

/-- A task that is not over after an event was there before, or the event has won its job. -/
theorem mem_openEntries_step (hgenuine : Genuine event) (hnumbered : state.Numbered)
    (h : entry ∈ openEntries (state.step config event).tasks) :
    entry ∈ openEntries state.tasks ∨ state.won? event = some entry.1 := by
  have hchange := change_step config event state
  generalize state.step config event = after at hchange h
  cases hchange with
  | idle hsame hquiet =>
      rw [hsame.tasks] at h
      exact .inl h
  | won job hclaim hwon hsame =>
      rw [hsame.tasks, register, openEntries_append, List.mem_append] at h
      refine h.imp_right fun hlast => ?_
      rw [hwon, List.mem_singleton.mp hlast]
  | lost id hsame hquiet =>
      rw [hsame.tasks] at h
      exact .inl h
  | @stubbed number value after job hsame => exact (hgenuine number value rfl).elim
  | task number event => exact .inl (mem_openEntries_stepTask hnumbered h)
  | stopping cancelJobs hquiet =>
      obtain ⟨numbers, htasks, -⟩ := state.exists_tasks_collectJobs cancelJobs
      rw [htasks, openEntries_map_asked] at h
      exact .inl h
  | stopped => exact .inl h

/-! ## The shutdown -/

/-- Whether the shutdown has turned to the jobs in flight and waits for their tasks. -/
def IsJoining (state : State) : Prop :=
  ∃ numbers, state.stop = .joiningJobs numbers

/-- The job that is won too late for the shutdown, which has turned to the jobs in flight. -/
def late? (event : Event) (state : State) : Option JobId :=
  match state.stop with
  | .joiningJobs _ => state.won? event
  | _ => none

theorem stop_cancelPoll (poll : Poll) (committed : Bool) (state : State) :
    (state.cancelPoll poll committed).stop = state.stop := by
  rcases onlyPolls_cancelPoll poll committed state with hsame | ⟨job, -, -, hsame⟩
  · exact congrArg Prod.fst hsame.shutdown
  · exact congrArg Prod.fst hsame.shutdown

theorem stop_cancelLoop (committed : Bool) (state : State) :
    (state.cancelLoop committed).stop = state.stop := by
  unfold cancelLoop
  dsimp only
  split
  · rfl
  · rfl
  · split
    · rfl
    · exact stop_cancelPoll _ committed _
  · rfl
  · rfl

theorem stop_step_of_leaves (hevent : LeavesShutdown event) (config : Config) (state : State) :
    (state.step config event).stop = state.stop :=
  congrArg Prod.fst (shutdown_step_of_leaves hevent config state)

/-- The shutdown waits for the same tasks until it returns. -/
theorem stop_step_of_joining {numbers : List Nat} (h : state.stop = .joiningJobs numbers)
    (hreturns : event ≠ .stopFinishes) (config : Config) :
    (state.step config event).stop = .joiningJobs numbers := by
  cases event with
  -- a second request to stop is ignored
  | stop cancelJobs =>
      have hbusy : state.stop ≠ .idle := h.trans_ne nofun
      rw [step, if_pos hbusy, h]
  | loopCancelled committed =>
      rw [step]
      split
      · rw [stop_cancelLoop, h]
      · exact h
  | stopCollects =>
      unfold step
      rw [h]
      exact h
  | stopFinishes => exact absurd rfl hreturns
  | _ =>
      rw [← h]
      refine stop_step_of_leaves ?_ config state
      exact trivial

/-- A shutdown that comes to wait for tasks has just turned to the jobs in flight. -/
theorem step_of_joining {numbers : List Nat} (hbefore : ¬ state.IsJoining)
    (hafter : (state.step config event).stop = .joiningJobs numbers) :
    ∃ cancelJobs, state.step config event = state.collectJobs cancelJobs := by
  have hsame : (state.step config event).stop ≠ state.stop := fun hsame =>
    hbefore ⟨numbers, hsame ▸ hafter⟩
  cases event with
  | stop cancelJobs =>
      unfold step at hafter hsame ⊢
      dsimp only at hafter hsame ⊢
      split at hafter
      next hstop => exact absurd ⟨numbers, hafter⟩ hbefore
      next hstop =>
        rw [if_neg hstop]
        split at hafter
        next hloop => exact ⟨cancelJobs, if_pos hloop⟩
        next => cases hafter
  | loopCancelled committed =>
      refine absurd ?_ hsame
      rw [step]
      split
      · exact stop_cancelLoop committed state
      · rfl
  | stopCollects =>
      unfold step at hafter ⊢
      dsimp only at hafter ⊢
      split at hafter
      next cancelJobs hstop =>
        split at hafter
        next hloop => exact ⟨cancelJobs, if_pos hloop⟩
        next => exact absurd ⟨numbers, hafter⟩ hbefore
      next => exact absurd ⟨numbers, hafter⟩ hbefore
  | stopFinishes =>
      unfold step at hafter
      dsimp only at hafter
      split at hafter
      next others hstop => exact absurd ⟨others, hstop⟩ hbefore
      next => exact absurd ⟨numbers, hafter⟩ hbefore
  | _ =>
      refine absurd (stop_step_of_leaves ?_ config state) hsame
      exact trivial

theorem numbers_collectJobs {cancelJobs : Bool} {numbers : List Nat}
    (h : (state.collectJobs cancelJobs).stop = .joiningJobs numbers) :
    numbers = state.inFlight.map Prod.snd := by
  cases cancelJobs <;> exact (Stop.joiningJobs.inj h).symm

/-! ## Tasks that the shutdown waits for -/

/-- A worker on the way to its first stop, and the jobs that it has won too late. -/
structure Attends (late : List JobId) (state : State) : Prop where
  /-- The jobs of its tasks are in flight until the shutdown turns to them. -/
  entered : ¬ state.IsJoining → state.Entered
  /-- The shutdown waits for all tasks but those of jobs that were won too late. -/
  awaited : ∀ numbers, state.stop = .joiningJobs numbers →
    ∀ entry ∈ openEntries state.tasks, entry.2 ∈ numbers ∨ entry.1 ∈ late

/-- All tasks are in flight when the shutdown turns to them. -/
theorem mem_numbers_of_entered {numbers : List Nat} {cancelJobs : Bool} (h : state.Entered)
    (hstop : (state.collectJobs cancelJobs).stop = .joiningJobs numbers)
    (hentry : entry ∈ openEntries (state.collectJobs cancelJobs).tasks) : entry.2 ∈ numbers := by
  obtain ⟨others, htasks, -⟩ := state.exists_tasks_collectJobs cancelJobs
  rw [htasks, openEntries_map_asked] at hentry
  rw [numbers_collectJobs hstop, h.entries]
  exact List.mem_map_of_mem hentry

/-- Every event until the shutdown returns keeps it waiting for all tasks but the late ones. -/
theorem Attends.step {late : List JobId} (h : state.Attends late) (hgenuine : Genuine event)
    (hreturns : event ≠ .stopFinishes) (hnumbered : state.Numbered)
    (hnodup : (state.taskJobs ++ (state.won? event).toList).Nodup) :
    (state.step config event).Attends (late ++ (state.late? event).toList) := by
  by_cases hjoining : state.IsJoining
  -- it waits already, and a new task is that of a late job
  · obtain ⟨numbers, hstop⟩ := hjoining
    have hnext := stop_step_of_joining hstop hreturns config
    refine ⟨fun hnot => absurd ⟨numbers, hnext⟩ hnot, fun others hothers entry hentry => ?_⟩
    obtain rfl := Stop.joiningJobs.inj (hnext.symm.trans hothers)
    have hlate : state.late? event = state.won? event := by
      simp only [late?, hstop]
    rcases mem_openEntries_step hgenuine hnumbered hentry with hbefore | hwon
    · exact (h.awaited numbers hstop entry hbefore).imp_right (List.mem_append_left _)
    · refine .inr (List.mem_append_right late ?_)
      rw [hlate, hwon]
      exact List.mem_singleton.mpr rfl
  -- it does not wait yet, or has just turned to all that is in flight
  · have hentered := h.entered hjoining
    refine ⟨fun hnot => ?_, fun numbers hstop entry hentry => ?_⟩
    · exact hentered.step hgenuine hnumbered hnodup (fun numbers hstop => hnot ⟨numbers, hstop⟩)
        hreturns
    · obtain ⟨cancelJobs, hcollect⟩ := step_of_joining hjoining hstop
      rw [hcollect] at hstop hentry
      exact .inl (mem_numbers_of_entered hentered hstop hentry)

theorem Attends.mono {late later : List JobId} (h : state.Attends late) (hsub : late ⊆ later) :
    state.Attends later where
  entered := h.entered
  awaited numbers hstop entry hentry := (h.awaited numbers hstop entry hentry).imp_right (hsub ·)

theorem attends_new (world : World) : ({ world } : State).Attends [] where
  entered _ := ⟨rfl, fun _ htask => absurd htask List.not_mem_nil⟩
  awaited := nofun

/-- What a worker attends to does not depend on the table and the files. -/
theorem Attends.in {late : List JobId} (h : state.Attends late) (world : World) :
    ({ state with world } : State).Attends late where
  entered hnot := ⟨(h.entered hnot).entries, (h.entered hnot).unasked⟩
  awaited := h.awaited

/-- A shutdown that returns has waited for tasks that are over. -/
theorem exists_allOver (hbusy : state.stop ≠ .idle)
    (hidle : (state.step config .stopFinishes).stop = .idle) :
    ∃ numbers, state.stop = .joiningJobs numbers ∧ state.allOver numbers = true := by
  unfold step at hidle
  dsimp only at hidle
  split at hidle
  next numbers hstop =>
    split at hidle
    next hover => exact ⟨numbers, hstop, hover⟩
    next => exact absurd hidle hbusy
  next => exact absurd hidle hbusy

end State

/-! ## Fleets -/

namespace Fleet

variable {fleet : Fleet} {actions : List Action} {index : Nat} {id : JobId}

/-- The job that a worker wins too late for its shutdown. -/
def late? (index : Nat) (action : Action) (fleet : Fleet) : Option JobId :=
  match action with
  | .worker other event =>
    if other = index then
      fleet.members[index]?.bind fun member =>
        State.late? event { member.state with world := fleet.world }
    else none
  | _ => none

/-- The jobs that a worker wins in a run after its shutdown has turned to the jobs in flight. -/
def late (index : Nat) : List Action → Fleet → List JobId :=
  history (late? index)

/-- Whether a worker was asked to stop, and the shutdown may return now. -/
def StopReturns (index : Nat) (fleet : Fleet) : Prop :=
  (fleet.state index).stop ≠ .idle ∧
    ((fleet.step (.worker index .stopFinishes)).state index).stop = .idle

instance (index : Nat) (fleet : Fleet) : Decidable (fleet.StopReturns index) :=
  inferInstanceAs (Decidable (_ ∧ _))

theorem exists_allOver (h : fleet.StopReturns index) :
    ∃ numbers, (fleet.state index).stop = .joiningJobs numbers ∧
      (fleet.state index).allOver numbers = true := by
  obtain ⟨hbusy, hidle⟩ := h
  rcases state_step index (.worker index .stopFinishes) fleet with hsame | ⟨event, member, -, hmember⟩
  · rw [hsame] at hidle
    exact absurd hidle hbusy
  · rw [state_worker hmember] at hidle
    rw [state_of_member hmember] at hbusy ⊢
    exact @State.exists_allOver member.config { member.state with world := fleet.world } hbusy hidle

theorem attends_of_isNew (h : fleet.IsNew) (index : Nat) : (fleet.state index).Attends [] := by
  cases hmember : fleet.members[index]? with
  | none =>
      rw [state_of_none hmember]
      exact State.attends_new {}
  | some member =>
      obtain ⟨world, hstate⟩ := h member (List.mem_of_getElem? hmember)
      rw [state_of_member hmember, hstate]
      exact State.attends_new world

/-- In whatever order things happen until its first stop returns, the shutdown of a worker waits
    for all tasks but those of jobs that were won too late. -/
theorem attends_run (hnew : fleet.IsNew) (hgenuine : ∀ action ∈ actions, action.IsGenuine)
    (hfirst : .worker index .stopFinishes ∉ actions) :
    ((fleet.run actions).state index).Attends (late index actions fleet) := by
  -- from the right, so that each action finds a run of the fleet before it
  induction actions using List.reverseRecOn with
  | nil => exact attends_of_isNew hnew index
  | append_singleton earlier action ih =>
      obtain ⟨hearlier, hlast⟩ := List.forall_mem_append.mp hgenuine
      rw [List.mem_append, not_or] at hfirst
      have hbefore := ih hearlier hfirst.1
      have hnodup : ((fleet.run (earlier ++ [action])).state index).taskJobs.Nodup :=
        nodup_taskJobs_state (nodup_taskJobs_run hnew.isFresh hgenuine) index
      have hnumbered := (course (numbered_of_isFresh hnew.isFresh) hearlier).numbered
      have hrun : fleet.run (earlier ++ [action]) = (fleet.run earlier).step action :=
        run_append earlier [action]
      have hsplit : late index (earlier ++ [action]) fleet =
          late index earlier fleet ++ (late? index action (fleet.run earlier)).toList := by
        rw [late, history_append, history, history, List.append_nil]
      rw [hrun] at hnodup ⊢
      rw [hsplit]
      rcases state_step index action (fleet.run earlier) with hsame | ⟨event, member, rfl, hmember⟩
      · rw [hsame]
        exact hbefore.mono (List.subset_append_left _ _)
      · have hlate : late? index (.worker index event) (fleet.run earlier) =
            State.late? event { member.state with world := (fleet.run earlier).world } := by
          simp only [late?, hmember, Option.bind_some, if_true]
        have hevent : State.Genuine event := hlast (.worker index event) (by simp)
        have hreturns : event ≠ .stopFinishes := fun heq => hfirst.2 (by simp [heq])
        have hstart : ({ member.state with world := (fleet.run earlier).world } : State).Numbered :=
          hnumbered member (List.mem_of_getElem? hmember)
        rw [state_of_member hmember] at hbefore
        rw [state_worker hmember, (State.turn_step hevent hstart member.config).jobs] at hnodup
        rw [state_worker hmember, hlate]
        exact (hbefore.in _).step hevent hreturns hstart hnodup

/-- When the shutdown of a worker returns, each job that the worker has taken out of the queue has
    come to an end, or it was left behind, or it was won too late. -/
theorem run_stopped (hnew : fleet.IsNew) (hgenuine : ∀ action ∈ actions, action.IsGenuine)
    (hfirst : .worker index .stopFinishes ∉ actions)
    (hreturns : (fleet.run actions).StopReturns index) (htakes : Takes index id actions fleet) :
    (fleet.run actions).world.store.IsSettled id ∨ id ∈ leftBehind actions fleet ∨
      id ∈ late index actions fleet := by
  rcases run_attended hnew.isFresh hgenuine htakes with ⟨number, task, hfind, rfl⟩ | hdone
  · obtain ⟨numbers, hstop, hover⟩ := exists_allOver hreturns
    obtain ⟨hmem, hnumber, hopen⟩ := State.openTask?_eq_some hfind
    have hentry : (task.job.id, task.number) ∈
        State.openEntries ((fleet.run actions).state index).tasks :=
      State.mem_openEntries.mpr ⟨task, hmem, hopen, rfl⟩
    rcases (attends_run hnew hgenuine hfirst).awaited numbers hstop _ hentry with hawaited | hlate
    -- the shutdown has waited for this task to be over
    · rw [State.allOver, List.all_eq_true] at hover
      have hnone := hover task.number hawaited
      rw [hnumber, hfind] at hnone
      cases hnone
    · exact .inr (.inr hlate)
  · exact hdone.imp_right .inl

/-- A worker is stopped while it reads the document of a job. -/
def sampleCancelled : List Action :=
  [.worker 0 .poll, .worker 0 (.fetched 0 .genuine), .worker 0 (.claimed 0 .genuine),
   .worker 0 (.task 0 .begin), .worker 0 (.stop true), .worker 0 (.task 0 (.cancel false)),
   .worker 0 (.task 0 (.failureWritten .genuine))]

theorem run_stopped_sampleCancelled :
    (sampleFleet.run sampleCancelled).StopReturns 0 ∧
      (sampleFleet.run sampleCancelled).world.store.IsSettled ⟨7⟩ := by
  have hnew : sampleFleet.IsNew := by
    simp [sampleFleet, IsNew]
  have hgenuine : ∀ action ∈ sampleCancelled, action.IsGenuine := by
    simp [sampleCancelled, Action.IsGenuine, State.Genuine]
  have hfirst : .worker 0 .stopFinishes ∉ sampleCancelled := by
    simp [sampleCancelled]
  have hreturns : (sampleFleet.run sampleCancelled).StopReturns 0 := by
    decide +kernel
  have htakes : Takes 0 ⟨7⟩ sampleCancelled sampleFleet :=
    ⟨sampleCancelled.take 2, .claimed 0 .genuine, sampleCancelled.drop 3, rfl, by decide +kernel,
      by decide +kernel⟩
  have hkept : leftBehind sampleCancelled sampleFleet = [] := by
    decide +kernel
  have hearly : late 0 sampleCancelled sampleFleet = [] := by
    decide +kernel
  have hstopped := run_stopped hnew hgenuine hfirst hreturns htakes
  rw [hkept, hearly] at hstopped
  exact ⟨hreturns, by simpa using hstopped⟩

/-- Runs in which the shutdown of a worker returns and a job is left behind: its task is cancelled
    before its first step, or while it writes down that the job failed, or the loop is cancelled
    while a claim that has had its effect is answered. -/
def sampleShutdowns : List (List Action) :=
  [[.worker 0 .poll, .worker 0 (.fetched 0 .genuine), .worker 0 (.claimed 0 .genuine),
    .worker 0 (.stop true), .worker 0 (.task 0 (.cancel false))],
   [.worker 0 .poll, .worker 0 (.fetched 0 .genuine), .worker 0 (.claimed 0 .genuine),
    .worker 0 (.task 0 .begin),
    .worker 0 (.task 0 (.read (.raises (.unreachable "connection lost") false))),
    .worker 0 (.stop true), .worker 0 (.task 0 (.cancel false))],
   [.worker 0 .start, .worker 0 .loopStarts, .worker 0 (.fetched 0 .genuine),
    .worker 0 (.stop false), .worker 0 (.loopCancelled true), .worker 0 .stopCollects]]

theorem leftBehind_of_mem_sampleShutdowns : ∀ actions ∈ sampleShutdowns,
    (sampleFleet.run actions).StopReturns 0 ∧ leftBehind actions sampleFleet = [⟨7⟩] ∧
      (sampleFleet.run actions).status? ⟨7⟩ = some .processing := by
  decide +kernel

/-- A claim is answered only after the shutdown has found that nothing is in flight. -/
def sampleLate : List Action :=
  [.worker 0 .poll, .worker 0 (.fetched 0 .genuine), .worker 0 (.stop false),
   .worker 0 (.claimed 0 .genuine)]

theorem late_sampleLate :
    (sampleFleet.run sampleLate).StopReturns 0 ∧ late 0 sampleLate sampleFleet = [⟨7⟩] ∧
      (sampleFleet.run sampleLate).status? ⟨7⟩ = some .processing := by
  decide +kernel

end Fleet

end Montage.Worker
