/-
  Montage.Proofs.Worker.Slots

  The jobs in flight.  As long as a worker is not stopped, they are the jobs of its tasks
  that are not over, each under its own id, and there are never more of them than the
  worker has slots.
-/
import Mathlib.Data.List.Induction
import Montage.Proofs.Worker.Lock
import Montage.Proofs.Worker.Moves

namespace Montage.Worker

open Montage.Jobs

namespace State

variable {config : Config} {state : State}

/-! ## No shutdown -/

theorem shutdown_beginPoll (config : Config) (purpose : Purpose) (forLoop : Bool) (state : State) :
    (state.beginPoll config purpose forLoop).shutdown = state.shutdown :=
  (onlyPolls_beginPoll config purpose forLoop state).shutdown

theorem shutdown_updateTask (world : World) (task : Task) (state : State) :
    (state.updateTask world task).shutdown = state.shutdown := by
  unfold updateTask
  dsimp only
  split <;> rfl

theorem shutdown_stepTask (config : Config) (number : Nat) (event : TaskEvent) (state : State) :
    (state.stepTask config number event).shutdown = state.shutdown := by
  rcases stepTask_cases config number event state with hstay | ⟨task, requested, -, -, hstep⟩
  · rw [hstay]
  · rw [hstep, shutdown_updateTask]

/-- Whether an event neither asks a worker to stop nor goes on with that. -/
def LeavesShutdown : Event → Prop
  | .stop _ | .loopCancelled _ | .stopCollects | .stopFinishes => False
  | _ => True

theorem shutdown_step_of_leaves {event : Event} (hevent : LeavesShutdown event)
    (config : Config) (state : State) : (state.step config event).shutdown = state.shutdown := by
  unfold step
  cases event with
  | poll => exact shutdown_beginPoll config .one false state
  | fill => exact shutdown_beginPoll config .fill false state
  | resume number =>
      dsimp only
      split
      · split
        · exact (onlyPolls_leave config number _ state).shutdown
        · rfl
      · rfl
  | fetched number reply =>
      dsimp only
      split
      · split
        · exact (onlyPolls_useOldest config _ reply state).shutdown
        · rfl
      · rfl
  | claimed number reply =>
      dsimp only
      split
      · split
        · exact (undisturbed_useClaim config _ _ reply state).shutdown
        · rfl
      · rfl
  | task number event => exact shutdown_stepTask config number event state
  | trigger => rfl
  | loopStarts =>
      dsimp only
      split
      · exact shutdown_beginPoll config .fill true state
      · rfl
  | loopResumes =>
      dsimp only
      split
      · exact shutdown_beginPoll config .fill true _
      · rfl
  | start | loopWakes | loopTimesOut =>
      dsimp only
      split <;> rfl
  | stop | loopCancelled | stopCollects | stopFinishes => exact hevent.elim

/-- A worker that was not asked to stop goes on not to. -/
theorem shutdown_step (hstop : state.Unstopped) {event : Event} (hevent : LetsRun event)
    (config : Config) : (state.step config event).shutdown = state.shutdown := by
  cases event with
  | stop cancelJobs => exact hevent.elim
  | loopCancelled committed => rw [step, hstop.loop, if_neg Bool.false_ne_true]
  | stopCollects =>
      unfold step
      rw [hstop.stop]
  | stopFinishes =>
      unfold step
      rw [hstop.stop]
  | _ =>
      refine shutdown_step_of_leaves ?_ config state
      exact trivial

end State

/-! ## Tasks that were not asked to stop -/

namespace Task

/-- A task after it has moved by itself: it was not asked to stop on the way, and it has not
    ended without having started. -/
structure Goes (before after : Task) : Prop where
  asked : after.cancelRequested = before.cancelRequested
  started : after.phase ≠ .ended .neverStarted

theorem goes_moveTo {phase : Phase} (h : phase ≠ .ended .neverStarted) (task : Task) :
    Goes task (task.moveTo phase) :=
  ⟨rfl, h⟩

theorem goes_fail (fault : Fault) (task : Task) : Goes task (task.fail fault) :=
  goes_moveTo (by nofun) task

theorem goes_compileWith (config : Config) (document : Timeline.Document)
    (locators : Timeline.Locators) (task : Task) :
    Goes task (task.compileWith config document locators) := by
  unfold compileWith
  split
  · exact goes_moveTo (by nofun) task
  · exact goes_fail _ task

theorem goes_useAsset (config : Config) (document : Timeline.Document)
    (gathering : Asset.Gathering) (task : Task) :
    Goes task (task.useAsset config document gathering) := by
  unfold useAsset
  split
  · exact goes_moveTo (by nofun) task
  · exact goes_fail _ task
  · exact goes_compileWith config document _ task

theorem goes_useRun (run : Engine.Run) (task : Task) : Goes task (task.useRun run) := by
  unfold useRun
  split
  · exact goes_moveTo (by nofun) task
  · exact goes_fail _ task
  · exact goes_moveTo (by nofun) task
  · exact goes_moveTo (by nofun) task

theorem goes_useText (config : Config) (text : String) (world : World) (task : Task) :
    Goes task (task.useText config text world).2 := by
  unfold useText
  split
  · exact goes_fail _ task
  · split
    · exact goes_compileWith config _ _ task
    · split
      · exact goes_fail _ task
      · exact goes_moveTo (by nofun) task

theorem goes_conclude (config : Config) {ending : Ending} (h : ending ≠ .neverStarted)
    (world : World) (task : Task) : Goes task (task.conclude config ending world).2 :=
  goes_moveTo (fun heq => h (Phase.ended.inj heq)) task

theorem goes_step (config : Config) {event : TaskEvent} (hevent : ∀ committed, event ≠ .cancel committed)
    (world : World) {task : Task} (hopen : task.isOver = false) :
    Goes task (task.step config event world).2 := by
  have hstay : Goes task task := by
    refine ⟨rfl, fun hphase => ?_⟩
    simp [isOver, hphase] at hopen
  unfold step
  split
  · split
    · exact goes_moveTo (by nofun) task
    · exact goes_fail _ task
  · split
    · exact goes_useText config _ _ task
    · exact goes_fail _ task
  · split
    · exact goes_useAsset config _ _ task
    · exact hstay
  · exact goes_moveTo (by nofun) task
  · exact goes_fail _ task
  · exact goes_useRun _ task
  · split
    · exact goes_useRun _ task
    · exact hstay
  · split
    · exact goes_moveTo (by nofun) task
    · exact goes_fail _ task
  · split
    · exact goes_moveTo (by nofun) task
    · exact goes_fail _ task
  · split
    · exact goes_conclude config (by nofun) _ task
    · exact goes_fail _ task
  · refine goes_conclude config ?_ _ task
    split <;> exact (by nofun)
  · exact absurd rfl (hevent _)
  · exact hstay

end Task

namespace State

variable {config : Config} {state : State}

/-! ## Entries -/

/-- The jobs of the tasks that are not over, each with the number of its task. -/
def openEntries (tasks : List Task) : List (JobId × Nat) :=
  (tasks.filter fun task => !task.isOver).map fun task => (task.job.id, task.number)

theorem openEntries_append (first last : List Task) :
    openEntries (first ++ last) = openEntries first ++ openEntries last := by
  simp [openEntries]

theorem openEntries_cons_of_open {task : Task} (h : task.isOver = false) (rest : List Task) :
    openEntries (task :: rest) = (task.job.id, task.number) :: openEntries rest := by
  simp [openEntries, h]

theorem openEntries_cons_of_over {task : Task} (h : task.isOver = true) (rest : List Task) :
    openEntries (task :: rest) = openEntries rest := by
  simp [openEntries, h]

theorem mem_openEntries {entry : JobId × Nat} {tasks : List Task} :
    entry ∈ openEntries tasks ↔
      ∃ task ∈ tasks, task.isOver = false ∧ entry = (task.job.id, task.number) := by
  simp only [openEntries, List.mem_map, List.mem_filter, Bool.not_eq_true', and_assoc]
  constructor
  · rintro ⟨task, htask, hopen, rfl⟩
    exact ⟨task, htask, hopen, rfl⟩
  · rintro ⟨task, htask, hopen, rfl⟩
    exact ⟨task, htask, hopen, rfl⟩

theorem map_fst_openEntries_sublist (tasks : List Task) :
    ((openEntries tasks).map Prod.fst).Sublist (tasks.map fun task => task.job.id) := by
  rw [openEntries, List.map_map]
  exact List.filter_sublist.map _

/-- A job that is not in flight yet comes last. -/
theorem withEntry_of_not_mem {id : JobId} {entries : List (JobId × Nat)}
    (h : id ∉ entries.map Prod.fst) (number : Nat) :
    withEntry id number entries = entries ++ [(id, number)] := by
  induction entries with
  | nil => rfl
  | cons entry rest ih =>
      obtain ⟨other, task⟩ := entry
      rw [List.map_cons, List.mem_cons, not_or] at h
      rw [withEntry, if_neg (Ne.symm h.1), ih h.2]
      rfl

/-- Without the job of one task, the entries of the others remain. -/
theorem filter_openEntries {id : JobId} {tasks : List Task}
    (h : id ∉ tasks.map fun task => task.job.id) :
    (openEntries tasks).filter (fun entry => entry.1 ≠ id) = openEntries tasks := by
  refine List.filter_eq_self.mpr fun entry hentry => ?_
  obtain ⟨task, htask, -, rfl⟩ := mem_openEntries.mp hentry
  exact decide_eq_true fun heq => h (List.mem_map.mpr ⟨task, htask, heq⟩)

/-! ## Steady workers -/

/-- A worker that is not stopped, whose polls respect the lock, and whose jobs in flight are
    those of its tasks. -/
structure Steady (config : Config) (state : State) : Prop where
  unstopped : state.Unstopped
  orderly : state.Orderly config
  entries : state.inFlight = openEntries state.tasks
  limit : (state.inFlight.length : Int) ≤ max 0 config.limit

/-- A job that is won takes the slot that its poll has seen free. -/
theorem hasFreeSlot_of_won {event : Event} {id : JobId} (h : state.Orderly config)
    (hwon : state.won? event = some id) : state.hasFreeSlot config = true := by
  unfold won? at hwon
  split at hwon
  next number =>
    split at hwon
    next job hpoint =>
      obtain ⟨poll, hpoll, hclaiming⟩ := Option.map_eq_some_iff.mp hpoint
      exact (h poll (poll?_eq_some hpoll).1).room (by rw [hclaiming]; rfl)
    next => cases hwon
  next => cases hwon

theorem entries_register (h : state.inFlight = openEntries state.tasks) {job : Job}
    (hnew : job.id ∉ state.taskJobs) :
    (state.register job).inFlight = openEntries (state.register job).tasks := by
  have hout : job.id ∉ state.inFlight.map Prod.fst := by
    rw [h]
    exact fun hmem => hnew ((map_fst_openEntries_sublist state.tasks).subset hmem)
  show withEntry job.id state.tasks.length state.inFlight =
    openEntries (state.tasks ++ [{ number := state.tasks.length, job }])
  rw [withEntry_of_not_mem hout, openEntries_append, h]
  rfl

/-- The job of a task that ends is no longer in flight, and the others stay there. -/
theorem entries_updateTask (hnumbered : state.Numbered) (hnodup : state.taskJobs.Nodup)
    (h : state.inFlight = openEntries state.tasks) (world : World) {task next : Task}
    (hmem : task ∈ state.tasks) (hopen : task.isOver = false) (hlater : Task.Later task next)
    (hgoes : Task.Goes task next) :
    (state.updateTask world next).inFlight = openEntries (state.updateTask world next).tasks := by
  obtain ⟨before, after, htasks, hnext⟩ := exists_setTask hnumbered hmem hlater.number
  have hentries : state.inFlight =
      openEntries before ++ (task.job.id, task.number) :: openEntries after := by
    rw [h, htasks, openEntries_append, openEntries_cons_of_open hopen]
  rw [tasks_updateTask, hnext, openEntries_append]
  -- no other task has the same job
  rw [taskJobs, htasks, List.map_append, List.map_cons] at hnodup
  have hsplit := List.nodup_append.mp hnodup
  have hbefore : task.job.id ∉ before.map fun other => other.job.id := fun hin =>
    hsplit.2.2 _ hin _ List.mem_cons_self rfl
  have hafter : task.job.id ∉ after.map fun other => other.job.id :=
    (List.nodup_cons.mp hsplit.2.1).1
  unfold updateTask
  dsimp only
  split
  next hphase => exact absurd hphase hgoes.started
  next ending _ hphase =>
    have hover : next.isOver = true := by simp [Task.isOver, hphase]
    have hgone : ((task.job.id, task.number) :: openEntries after).filter
        (fun entry => entry.1 ≠ task.job.id) = openEntries after := by
      rw [List.filter_cons_of_neg (by simp), filter_openEntries hafter]
    show state.inFlight.filter (fun entry => entry.1 ≠ next.job.id) = _
    rw [hentries, hlater.job, List.filter_append, filter_openEntries hbefore, hgone,
      openEntries_cons_of_over hover]
  next hphase =>
    have hstill : next.isOver = false := by
      unfold Task.isOver
      split
      next ending hended => exact absurd hended (hphase ending)
      next => rfl
    rw [openEntries_cons_of_open hstill, hlater.job, hlater.number]
    exact hentries

/-- What a worker has in flight until it turns to that in a shutdown: the jobs of its tasks
    that are not over, and nobody has asked a task to stop. -/
structure Entered (state : State) : Prop where
  entries : state.inFlight = openEntries state.tasks
  unasked : ∀ task ∈ state.tasks, task.cancelRequested = false

theorem Entered.sameJobs {after : State} (h : state.Entered) (hsame : SameJobs state after) :
    after.Entered := by
  refine ⟨?_, ?_⟩
  · rw [hsame.inFlight, hsame.tasks, h.entries]
  · rw [hsame.tasks]
    exact h.unasked

theorem Entered.claimRow (h : state.Entered) (id : JobId) : (state.claimRow id).2.Entered :=
  ⟨h.entries, h.unasked⟩

theorem Entered.register (h : state.Entered) {job : Job} (hnew : job.id ∉ state.taskJobs) :
    (state.register job).Entered := by
  refine ⟨entries_register h.entries hnew, fun task htask => ?_⟩
  rcases List.mem_append.mp htask with hold | hlast
  · exact h.unasked task hold
  · rw [List.mem_singleton.mp hlast]

/-- The work on jobs goes on, and puts nothing in flight. -/
theorem Entered.stepTask (h : state.Entered) (hnumbered : state.Numbered)
    (hnodup : state.taskJobs.Nodup) (config : Config) (number : Nat) (event : TaskEvent) :
    (state.stepTask config number event).Entered ∧
      (state.stepTask config number event).inFlight.length ≤ state.inFlight.length := by
  have hstay := And.intro h (Nat.le_refl state.inFlight.length)
  cases hfind : state.openTask? number with
  | none =>
      rw [State.stepTask, hfind]
      exact hstay
  | some task =>
      obtain ⟨hmem, -, hopen⟩ := openTask?_eq_some hfind
      have hasked := h.unasked task hmem
      by_cases hcancel : ∃ committed, event = .cancel committed
      -- nobody has asked the task to stop
      · obtain ⟨committed, rfl⟩ := hcancel
        rw [State.stepTask, hfind]
        dsimp only
        rw [hasked, if_neg Bool.false_ne_true]
        exact hstay
      · have hevent : ∀ committed, event ≠ .cancel committed := fun committed heq =>
          hcancel ⟨committed, heq⟩
        have hlater := (task.keeps_step config event state.world).later
        have hgoes := Task.goes_step config hevent state.world hopen
        rw [stepTask_of_open hfind config event hevent]
        refine ⟨⟨?_, ?_⟩, length_inFlight_updateTask _ _ state⟩
        · exact entries_updateTask hnumbered hnodup h.entries _ hmem hopen hlater hgoes
        · exact forall_tasks_updateTask _ h.unasked (hgoes.asked.trans hasked)

/-- A worker that does not turn to its jobs in flight keeps them entered. -/
theorem Entered.step {event : Event} (h : state.Entered) (hgenuine : Genuine event)
    (hnumbered : state.Numbered) (hnodup : (state.taskJobs ++ (state.won? event).toList).Nodup)
    (hgoesOn : ∀ numbers, (state.step config event).stop ≠ .joiningJobs numbers)
    (hfinishes : event ≠ .stopFinishes) : (state.step config event).Entered := by
  have hchange := change_step config event state
  generalize state.step config event = after at hchange hgoesOn ⊢
  cases hchange with
  | idle hsame hquiet => exact h.sameJobs hsame
  | won job hclaim hwon hsame =>
      rw [hwon] at hnodup
      have hnew : job.id ∉ state.taskJobs := fun hmem =>
        (List.nodup_append.mp hnodup).2.2 _ hmem _ (List.mem_singleton.mpr rfl) rfl
      exact ((h.claimRow job.id).register hnew).sameJobs hsame
  | lost id hsame hquiet => exact (h.claimRow id).sameJobs hsame
  | @stubbed number value after job hsame => exact (hgenuine number value rfl).elim
  | task number event =>
      exact (h.stepTask hnumbered (List.nodup_append.mp hnodup).1 config number event).1
  | stopping cancelJobs hquiet =>
      exact absurd rfl (hgoesOn (state.inFlight.map Prod.snd))
  | stopped => exact absurd rfl hfinishes

theorem Steady.entered (h : state.Steady config) : state.Entered :=
  ⟨h.entries, h.unstopped.tasks⟩

theorem length_withEntry_le (id : JobId) (number : Nat) (entries : List (JobId × Nat)) :
    (withEntry id number entries).length ≤ entries.length + 1 := by
  induction entries with
  | nil => exact Nat.le_refl 1
  | cons entry rest ih =>
      obtain ⟨other, task⟩ := entry
      unfold withEntry
      split
      · exact Nat.le_succ _
      · exact Nat.succ_le_succ ih

/-- A job that is won takes a free slot. -/
theorem limit_register (hfree : state.hasFreeSlot config = true) (job : Job) :
    ((state.register job).inFlight.length : Int) ≤ max 0 config.limit := by
  have hlength : (state.register job).inFlight.length ≤ state.inFlight.length + 1 :=
    length_withEntry_le job.id state.tasks.length state.inFlight
  simp only [hasFreeSlot, decide_eq_true_eq] at hfree
  omega

/-- Whatever happens to a worker that is not stopped, it has no more in flight than it may. -/
theorem limit_step {event : Event} (hgenuine : Genuine event) (hnumbered : state.Numbered)
    (hnodup : state.taskJobs.Nodup) (h : state.Steady config) :
    ((state.step config event).inFlight.length : Int) ≤ max 0 config.limit := by
  have hlimit := h.limit
  have hchange := change_step config event state
  generalize state.step config event = after at hchange ⊢
  cases hchange with
  | idle hsame hquiet => rwa [hsame.inFlight]
  | won job hclaim hwon hsame =>
      have hfree := hasFreeSlot_of_won h.orderly hwon
      rw [hsame.inFlight]
      exact limit_register hfree job
  | lost id hsame hquiet =>
      rw [hsame.inFlight]
      exact hlimit
  | @stubbed number value after job hsame => exact (hgenuine number value rfl).elim
  | task number event =>
      have hlength := (h.entered.stepTask hnumbered hnodup config number event).2
      omega
  | stopping cancelJobs hquiet => cases cancelJobs <;> exact hlimit
  | stopped =>
      show ((0 : Nat) : Int) ≤ max 0 config.limit
      omega

/-- A shutdown that has not begun does not finish. -/
theorem step_stopFinishes_of_unstopped (h : state.Unstopped) (config : Config) :
    state.step config .stopFinishes = state := by
  unfold step
  rw [h.stop]

theorem entered_step {event : Event} (hgenuine : Genuine event) (hevent : LetsRun event)
    (hnumbered : state.Numbered) (hnodup : (state.taskJobs ++ (state.won? event).toList).Nodup)
    (h : state.Steady config) : (state.step config event).Entered := by
  have hidle : (state.step config event).stop = .idle :=
    (congrArg Prod.fst (shutdown_step h.unstopped hevent config)).trans h.unstopped.stop
  by_cases hfinishes : event = .stopFinishes
  · rw [hfinishes, step_stopFinishes_of_unstopped h.unstopped]
    exact h.entered
  · refine h.entered.step hgenuine hnumbered hnodup (fun numbers => ?_) hfinishes
    rw [hidle]
    exact nofun

/-- Every event but a request to stop leaves a worker steady. -/
theorem steady_step {event : Event} (hgenuine : Genuine event) (hevent : LetsRun event)
    (hnumbered : state.Numbered) (hnodup : (state.step config event).taskJobs.Nodup)
    (h : state.Steady config) : (state.step config event).Steady config := by
  rw [(turn_step hgenuine hnumbered config).jobs] at hnodup
  have hentered := entered_step hgenuine hevent hnumbered hnodup h
  have hshutdown : (state.step config event).shutdown = (.idle, false) := by
    rw [shutdown_step h.unstopped hevent config, shutdown, h.unstopped.stop, h.unstopped.loop]
  exact {
    unstopped := ⟨congrArg Prod.fst hshutdown, congrArg Prod.snd hshutdown, hentered.unasked⟩
    orderly := orderly_step h.unstopped hevent h.orderly
    entries := hentered.entries
    limit := limit_step hgenuine hnumbered (List.nodup_append.mp hnodup).1 h }

theorem steady_new (config : Config) (world : World) : ({ world } : State).Steady config where
  unstopped := ⟨rfl, rfl, fun _ htask => absurd htask List.not_mem_nil⟩
  orderly := fun _ hpoll => absurd hpoll List.not_mem_nil
  entries := rfl
  limit := by
    show ((0 : Nat) : Int) ≤ max 0 config.limit
    omega

/-! ## Slots -/

/-- The jobs in flight of a worker: no more than it has slots, and each of them that of a
    task whose cleanup is still to come. -/
structure WithinSlots (config : Config) (state : State) : Prop where
  limit : (state.inFlight.length : Int) ≤ max 0 config.limit
  /-- A job is in flight once. -/
  nodup : (state.inFlight.map Prod.fst).Nodup
  /-- A task that is not over is there under its own job. -/
  entered : ∀ task ∈ state.tasks, task.isOver = false →
    (task.job.id, task.number) ∈ state.inFlight
  /-- What is there is a task of that job that is not over. -/
  running : ∀ entry ∈ state.inFlight, ∃ task ∈ state.tasks,
    task.isOver = false ∧ entry = (task.job.id, task.number)
  /-- No task that is over is there, under whatever job. -/
  finished : ∀ task ∈ state.tasks, task.isOver = true →
    task.number ∉ state.inFlight.map Prod.snd

theorem Steady.withinSlots (h : state.Steady config) (hnumbered : state.Numbered)
    (hnodup : state.taskJobs.Nodup) : state.WithinSlots config where
  limit := h.limit
  nodup := by
    rw [h.entries]
    exact hnodup.sublist (map_fst_openEntries_sublist state.tasks)
  entered := by
    intro task htask hopen
    rw [h.entries]
    exact mem_openEntries.mpr ⟨task, htask, hopen, rfl⟩
  running := by
    intro entry hentry
    rw [h.entries] at hentry
    exact mem_openEntries.mp hentry
  finished := by
    intro task htask hover hmem
    obtain ⟨entry, hentry, hnumber⟩ := List.mem_map.mp hmem
    rw [h.entries] at hentry
    obtain ⟨other, hother, hopen, rfl⟩ := mem_openEntries.mp hentry
    -- tasks with one number are one task
    have hsame := List.inj_on_of_nodup_map hnumbered.nodup hother htask hnumber
    rw [hsame, hover] at hopen
    cases hopen

/-- What holds of the jobs in flight does not depend on the table and the files. -/
theorem Steady.in (h : state.Steady config) (world : World) :
    ({ state with world } : State).Steady config :=
  ⟨⟨h.unstopped.stop, h.unstopped.loop, h.unstopped.tasks⟩,
    fun poll hpoll => ⟨(h.orderly poll hpoll).holder, (h.orderly poll hpoll).room⟩,
    h.entries, h.limit⟩

end State

/-! ## Runs -/

/-- Whether nobody asks the worker at an index to stop. -/
def Action.LetsRun (index : Nat) (action : Action) : Prop :=
  ∀ cancelJobs, action ≠ .worker index (.stop cancelJobs)

namespace Fleet

variable {fleet : Fleet} {actions : List Action} {index : Nat}

/-- Whether no worker has done anything yet. -/
def IsNew (fleet : Fleet) : Prop :=
  ∀ member ∈ fleet.members, ∃ world, member.state = { world }

theorem IsNew.isFresh (h : fleet.IsNew) : fleet.IsFresh := by
  intro member hmember
  obtain ⟨world, hstate⟩ := h member hmember
  rw [hstate]

theorem nodup_taskJobs_run (hfresh : fleet.IsFresh)
    (hgenuine : ∀ action ∈ actions, action.IsGenuine) : (fleet.run actions).taskJobs.Nodup := by
  have hcourse := course (numbered_of_isFresh hfresh) hgenuine
  refine (nodup_of_count_le hcourse.nodup fun id => ?_).1
  have hcount := hcourse.jobs id
  have hnone := (count_eq_zero_of_isFresh hfresh id).1
  omega

theorem nodup_taskJobs_member (h : fleet.taskJobs.Nodup) {member : Member}
    (hmember : member ∈ fleet.members) : member.state.taskJobs.Nodup :=
  (List.nodup_flatMap.mp h).1 member hmember

/-- Whatever happens, a worker that nobody asks to stop stays steady. -/
theorem steady_step {action : Action} (hgenuine : action.IsGenuine)
    (hrun : action.LetsRun index) (hnumbered : fleet.Numbered)
    (hnodup : (fleet.step action).taskJobs.Nodup)
    (h : ∀ member, fleet.members[index]? = some member → member.state.Steady member.config)
    {member : Member} (hmember : (fleet.step action).members[index]? = some member) :
    member.state.Steady member.config := by
  cases action with
  | worker other event =>
      cases hmoved : fleet.members[other]? with
      | none =>
          simp only [step, hmoved] at hmember
          exact h member hmember
      | some mover =>
          have hstep : (fleet.step (.worker other event)).members =
              fleet.members.set other (mover.step event fleet.world).2 := by
            simp only [step, hmoved]
          by_cases hother : other = index
          · subst hother
            have hsteady := (h mover hmoved).in fleet.world
            have hevent : State.LetsRun event := by
              cases event with
              | stop cancelJobs => exact (hrun cancelJobs rfl).elim
              | _ => trivial
            obtain ⟨hlt, -⟩ := List.getElem?_eq_some_iff.mp hmoved
            have hlast : (mover.step event fleet.world).2 ∈
                (fleet.step (.worker other event)).members := by
              rw [hstep]
              exact List.mem_of_getElem? (List.getElem?_set_self hlt)
            rw [hstep, List.getElem?_set_self hlt] at hmember
            obtain rfl := Option.some.inj hmember
            exact State.steady_step hgenuine hevent
              (hnumbered mover (List.mem_of_getElem? hmoved)) (nodup_taskJobs_member hnodup hlast)
              ((h mover hmoved).in fleet.world)
          -- the others stay as they are
          · rw [hstep, List.getElem?_set_ne hother] at hmember
            exact h member hmember
  | submit id request =>
      unfold step at hmember
      dsimp only at hmember
      split at hmember <;> exact h member hmember
  | submission other event =>
      unfold step at hmember
      dsimp only at hmember
      split at hmember <;> exact h member hmember
  | statement statement => exact h member hmember

theorem steady_run (hnew : fleet.IsNew) (hgenuine : ∀ action ∈ actions, action.IsGenuine)
    (hrun : ∀ action ∈ actions, action.LetsRun index) :
    ∀ member, (fleet.run actions).members[index]? = some member →
      member.state.Steady member.config := by
  -- from the right, so that each action finds a run of the fleet before it
  induction actions using List.reverseRecOn with
  | nil =>
      intro member hmember
      obtain ⟨world, hstate⟩ := hnew member (List.mem_of_getElem? hmember)
      rw [hstate]
      exact State.steady_new member.config world
  | append_singleton earlier action ih =>
      have hearlier : ∀ other ∈ earlier, other ∈ earlier ++ [action] := fun other hother =>
        List.mem_append_left [action] hother
      have hlast : action ∈ earlier ++ [action] := List.mem_append_right earlier List.mem_cons_self
      have hnodup := nodup_taskJobs_run hnew.isFresh hgenuine
      have hnumbered := (course (numbered_of_isFresh hnew.isFresh) fun other hother =>
        hgenuine other (hearlier other hother)).numbered
      rw [run_append] at hnodup ⊢
      intro member hmember
      exact steady_step (hgenuine action hlast) (hrun action hlast) hnumbered hnodup
        (ih (fun other hother => hgenuine other (hearlier other hother)) fun other hother =>
          hrun other (hearlier other hother)) hmember

/-- In whatever order polls, wake-ups, claims, jobs and others take their turns, a worker
    that nobody stops has no more jobs in flight than it has slots, and they are the jobs of
    its tasks that are not over. -/
theorem run_withinSlots {member : Member} (hnew : fleet.IsNew)
    (hgenuine : ∀ action ∈ actions, action.IsGenuine)
    (hrun : ∀ action ∈ actions, action.LetsRun index)
    (hmember : (fleet.run actions).members[index]? = some member) :
    member.state.WithinSlots member.config := by
  have hsteady := steady_run hnew hgenuine hrun member hmember
  have hmem : member ∈ (fleet.run actions).members := List.mem_of_getElem? hmember
  have hnumbered := (course (numbered_of_isFresh hnew.isFresh) hgenuine).numbered
  have hnodup := nodup_taskJobs_run hnew.isFresh hgenuine
  exact hsteady.withinSlots (hnumbered member hmem) (nodup_taskJobs_member hnodup hmem)

/-- A worker with one slot and two queued jobs. -/
def sampleQueue : Fleet :=
  { input := sampleConfig.input
    world := { store := ⟨[sampleRow, { sampleRow with id := ⟨8⟩, createdAt := 1 }]⟩ }
    members := [⟨sampleConfig, {}⟩] }

/-- Three polls of one worker.  The first loses its job to somebody else, the second takes
    the other job, and the third comes while it does so. -/
def sampleContention : List Action :=
  [.worker 0 .poll, .worker 0 .fill, .worker 0 .trigger, .worker 0 (.fetched 0 .genuine),
   .statement (.claim ⟨7⟩), .worker 0 (.claimed 0 .genuine), .worker 0 (.resume 1),
   .worker 0 (.fetched 1 .genuine), .worker 0 .poll, .worker 0 (.claimed 1 .genuine),
   .worker 0 (.resume 2)]

theorem run_withinSlots_sampleContention :
    ∃ member, (sampleQueue.run sampleContention).members[0]? = some member ∧
      member.state.inFlight = [(⟨8⟩, 0)] ∧ member.state.polls.length = 3 ∧
      member.state.WithinSlots member.config := by
  have hnew : sampleQueue.IsNew := by
    intro member hmember
    rw [List.mem_singleton.mp hmember]
    exact ⟨{}, rfl⟩
  have hgenuine : ∀ action ∈ sampleContention, action.IsGenuine := by
    simp [sampleContention, Action.IsGenuine, State.Genuine]
  have hrun : ∀ action ∈ sampleContention, action.LetsRun 0 := by
    simp [sampleContention, Action.LetsRun]
  refine ⟨_, rfl, ?_, ?_, run_withinSlots hnew hgenuine hrun rfl⟩
  · decide +kernel
  · decide +kernel

end Fleet

end Montage.Worker
