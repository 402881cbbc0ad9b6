/-
  Montage.Proofs.Worker.Ending

  How a task is over.  A task that has begun ends in one way only, whatever happens to it: it
  removes the directory that it works in, takes its job out of the jobs in flight and asks
  for a poll.
-/
import Montage.Proofs.Worker.Turn

namespace Montage.Worker

open Montage.Asset Montage.File Montage.Jobs Montage.Timeline

/-! ## Tasks that go on -/

namespace Task

variable {config : Config} {task : Task}

theorem isOver_compileWith (config : Config) (document : Document) (locators : Locators)
    (task : Task) : (task.compileWith config document locators).isOver = false := by
  unfold compileWith
  split <;> rfl

theorem isOver_useAsset (config : Config) (document : Document) (gathering : Gathering)
    (task : Task) : (task.useAsset config document gathering).isOver = false := by
  unfold useAsset
  split
  · rfl
  · rfl
  · exact isOver_compileWith config document _ task

theorem isOver_useText (config : Config) (text : String) (world : World) (task : Task) :
    (task.useText config text world).2.isOver = false := by
  unfold useText
  split
  · rfl
  · split
    · exact isOver_compileWith config _ _ task
    · split <;> rfl

theorem isOver_useRun (run : Engine.Run) (task : Task) : (task.useRun run).isOver = false := by
  unfold useRun
  split <;> rfl

/-! ## Tasks that end -/

/-- Whether a step ends a task by the removal of its directory; before that, at most the
    table has changed. -/
def Concludes (config : Config) (world : World) (task : Task) (result : World × Task) : Prop :=
  ∃ ending written, ending ≠ .neverStarted ∧ written.files = world.files ∧
    result = task.conclude config ending written

theorem concludes_of_files {ending : Ending} (h : ending ≠ .neverStarted) {world written : World}
    (hfiles : written.files = world.files) :
    Concludes config world task (task.conclude config ending written) :=
  ⟨ending, written, h, hfiles, rfl⟩

theorem concludes_cancelAt (hopen : task.isOver = false) (hbegun : task.isWaiting = false)
    (committed : Bool) (world : World)
    (hover : (task.cancelAt config committed world).2.isOver = true) :
    Concludes config world task (task.cancelAt config committed world) := by
  have hfiles : (if committed then (world.change task.pendingWrite).2 else world).files =
      world.files := by
    split
    · exact World.files_change task.pendingWrite world
    · rfl
  revert hover
  unfold cancelAt
  dsimp only
  split
  next hphase =>
    rw [isWaiting_iff.mpr hphase] at hbegun
    cases hbegun
  next =>
    intro hover
    rw [isOver_useRun] at hover
    cases hover
  next => exact fun _ => concludes_of_files (by nofun) hfiles
  next ending hphase =>
    rw [isOver, hphase] at hopen
    cases hopen
  next => exact nofun

/-- A task that has begun ends by the removal of its directory, whatever happens to it. -/
theorem concludes_step (hopen : task.isOver = false) (hbegun : task.isWaiting = false)
    (event : TaskEvent) (world : World)
    (hover : (task.step config event world).2.isOver = true) :
    Concludes config world task (task.step config event world) := by
  have hstays : ∀ result : World × Task, result.2.isOver = false → result.2.isOver = true →
      Concludes config world task result := by
    intro result hopen hover
    rw [hopen] at hover
    cases hover
  revert hover
  unfold step
  split
  next hphase =>
    rw [isWaiting_iff.mpr hphase] at hbegun
    cases hbegun
  · split
    · exact hstays _ (isOver_useText config _ _ task)
    · exact hstays _ rfl
  · split
    · exact hstays _ (isOver_useAsset config _ _ task)
    · exact hstays _ hopen
  · exact hstays _ rfl
  · exact hstays _ rfl
  · exact hstays _ (isOver_useRun _ task)
  · split
    · exact hstays _ (isOver_useRun _ task)
    · exact hstays _ hopen
  · split
    · exact hstays _ rfl
    · exact hstays _ rfl
  · split
    · exact hstays _ rfl
    · exact hstays _ rfl
  next reply _ _ =>
    have hfiles := World.files_write task.pendingWrite reply world
    split
    next written hwrite =>
      rw [hwrite] at hfiles
      exact fun _ => concludes_of_files (by nofun) hfiles
    next => exact hstays _ rfl
  next reply _ cancelled _ =>
    refine fun _ => concludes_of_files ?_ (World.files_write task.pendingWrite reply world)
    split <;> exact nofun
  · exact concludes_cancelAt hopen hbegun _ world
  · exact hstays _ hopen

end Task

/-! ## Workers -/

namespace State

variable {config : Config} {state : State} {number : Nat} {task next : Task}

/-- A task that moves is found under its number. -/
theorem openTask?_updateTask (hfind : state.openTask? number = some task)
    (hnumber : next.number = number) (world : World) :
    (state.updateTask world next).openTask? number =
      if next.isOver then none else some next := by
  obtain ⟨htask, -⟩ := Option.filter_eq_some_iff.mp hfind
  have hplace : ((fun task => decide (task.number = number)) ∘ fun other : Task =>
      if other.number = next.number then next else other) =
        fun task => decide (task.number = number) := by
    funext other
    simp only [Function.comp, hnumber]
    split
    next hsame => rw [hsame, hnumber]
    next => rfl
  have hmoved : (state.updateTask world next).task? number = some next := by
    have hold := List.find?_some htask
    rw [decide_eq_true_eq] at hold
    rw [task?, tasks_updateTask, setTask, List.find?_map, hplace]
    rw [task?] at htask
    rw [htask, Option.map_some, if_pos (hold.trans hnumber.symm)]
  rw [openTask?, hmoved, Option.filter_some]
  cases next.isOver <;> rfl

theorem openTask?_updateTask_ne {other : Nat} (hnumber : next.number ≠ other) (world : World) :
    (state.updateTask world next).openTask? other = state.openTask? other := by
  have hplace : ((fun task => decide (task.number = other)) ∘ fun task : Task =>
      if task.number = next.number then next else task) =
        fun task => decide (task.number = other) := by
    funext task
    simp only [Function.comp]
    split
    next hsame => rw [hsame]
    next => rfl
  have hkept : (state.task? other).map (fun task =>
      if task.number = next.number then next else task) = state.task? other := by
    cases htask : state.task? other with
    | none => rfl
    | some task =>
        have hfound := List.find?_some htask
        rw [decide_eq_true_eq] at hfound
        rw [Option.map_some, if_neg (hfound.trans_ne hnumber.symm)]
  rw [openTask?, openTask?, task?, tasks_updateTask, setTask, List.find?_map, hplace]
  exact congrArg _ hkept

/-- What the end of the work on a job makes of a worker. -/
structure Clears (config : Config) (job : Job) (before after : State) : Prop where
  /-- The job is no longer in flight, and all others still are. -/
  inFlight : after.inFlight = before.inFlight.filter fun entry => entry.1 ≠ job.id
  wakeup : after.wakeup = true
  /-- The directory of the job is removed. -/
  files : ((Call.remove (scratchDirectory config job.id)).run.run before.world.files).2 =
    after.world.files

theorem updateTask_of_ended {ending : Ending} (hphase : next.phase = .ended ending)
    (hending : ending ≠ .neverStarted) (world : World) :
    (state.updateTask world next).inFlight =
        state.inFlight.filter (fun entry => entry.1 ≠ next.job.id) ∧
      (state.updateTask world next).wakeup = true := by
  unfold updateTask
  dsimp only
  split
  next hnever =>
    rw [hphase] at hnever
    exact absurd (Phase.ended.inj hnever) hending
  next => exact ⟨rfl, rfl⟩
  next hopen => exact absurd hphase (hopen ending)

theorem clears_updateTask {result : World × Task}
    (h : Task.Concludes config state.world task result) :
    Clears config task.job state (state.updateTask result.1 result.2) := by
  obtain ⟨ending, written, hending, hfiles, hresult⟩ := h
  rw [hresult, Task.conclude]
  dsimp only
  obtain ⟨hinFlight, hwakeup⟩ := @updateTask_of_ended state (task.moveTo (.ended ending)) ending rfl
    hending (written.onFiles (Call.remove (scratchDirectory config task.job.id))).2
  refine ⟨hinFlight, hwakeup, ?_⟩
  rw [world_updateTask, World.files_onFiles, hfiles]

/-- A task that is over after an event has taken a step that ends it. -/
theorem exists_step_of_over (hfind : state.openTask? number = some task) {event : TaskEvent}
    (hover : (state.stepTask config number event).openTask? number = none) :
    ∃ requested, (∀ committed, event = .cancel committed → task.cancelRequested = true) ∧
      state.stepTask config number event =
        state.updateTask
          (({ task with cancelRequested := requested } : Task).step config event state.world).1
          (({ task with cancelRequested := requested } : Task).step config event state.world).2 ∧
      (({ task with cancelRequested := requested } : Task).step config event
        state.world).2.isOver = true := by
  obtain ⟨-, hnumber, -⟩ := openTask?_eq_some hfind
  rcases stepTask_cases config number event state with
    hstay | ⟨start, requested, hstart, hcancel, hstep⟩
  · rw [hstay, hfind] at hover
    cases hover
  · rw [hfind] at hstart
    obtain rfl := Option.some.inj hstart
    have hlater := (Task.keeps_step config event state.world
      { task with cancelRequested := requested }).later
    rw [hstep, openTask?_updateTask hfind (hlater.number.trans hnumber)] at hover
    refine ⟨requested, hcancel, hstep, ?_⟩
    by_contra hnot
    rw [if_neg hnot] at hover
    cases hover

/-- A task that has begun and is over after an event has left nothing behind. -/
theorem clears_stepTask (hfind : state.openTask? number = some task)
    (hbegun : task.isWaiting = false) {event : TaskEvent}
    (hover : (state.stepTask config number event).openTask? number = none) :
    Clears config task.job state (state.stepTask config number event) := by
  obtain ⟨-, -, hopen⟩ := openTask?_eq_some hfind
  obtain ⟨requested, -, hstep, hends⟩ := exists_step_of_over hfind hover
  have hconcludes := @Task.concludes_step config { task with cancelRequested := requested } hopen
    hbegun event state.world hends
  rw [hstep]
  exact @clears_updateTask config state { task with cancelRequested := requested } _ hconcludes

/-! ## Other events -/

/-- Only a step of a task ends it. -/
theorem exists_task_of_over {event : Event} (hfind : state.openTask? number = some task)
    (hover : (state.step config event).openTask? number = none) :
    ∃ taskEvent, event = .task number taskEvent := by
  have hsame : ∀ after : State, after.tasks = state.tasks → after.openTask? number ≠ none := by
    intro after htasks
    rw [openTask?, task?, htasks, ← task?, ← openTask?, hfind]
    nofun
  have hregister : ∀ (before : State) (job : Job), before.tasks = state.tasks →
      ∀ after : State, after.tasks = (before.register job).tasks →
        after.openTask? number ≠ none := by
    intro before job hbefore after htasks
    obtain ⟨htask, hopen⟩ := Option.filter_eq_some_iff.mp hfind
    rw [openTask?, task?, htasks, register, List.find?_append, hbefore, ← task?, htask,
      Option.some_or, Option.filter_some, if_pos hopen]
    nofun
  have hchange := change_step config event state
  generalize state.step config event = after at hchange hover
  cases hchange with
  | idle hkept => exact absurd hover (hsame after hkept.tasks)
  | won job hclaim hwon hkept => exact absurd hover (hregister _ job rfl after hkept.tasks)
  | lost id hkept => exact absurd hover (hsame after hkept.tasks)
  | stubbed job hkept => exact absurd hover (hregister state job rfl after hkept.tasks)
  | task other taskEvent =>
      by_cases hother : other = number
      · exact ⟨taskEvent, by rw [hother]⟩
      · rcases stepTask_cases config other taskEvent state with
          hstay | ⟨moved, requested, hmoved, -, hstep⟩
        · rw [hstay, hfind] at hover
          cases hover
        · have hlater := (Task.keeps_step config taskEvent state.world
            { moved with cancelRequested := requested }).later
          have hnumber := hlater.number.trans (openTask?_eq_some hmoved).2.1
          rw [hstep, openTask?_updateTask_ne (hnumber.trans_ne hother), hfind] at hover
          cases hover
  | stopping cancelJobs =>
      obtain ⟨numbers, htasks, -⟩ := state.exists_tasks_collectJobs cancelJobs
      obtain ⟨htask, hopen⟩ := Option.filter_eq_some_iff.mp hfind
      have hplace : ((fun task => decide (task.number = number)) ∘ asked numbers) =
          fun task => decide (task.number = number) := by
        funext task
        simp only [Function.comp, asked]
        split <;> rfl
      have hasked : (!(asked numbers task).isOver) = true := by
        unfold asked
        split
        · exact hopen
        · exact hopen
      rw [openTask?, task?, htasks, List.find?_map, hplace, ← task?, htask, Option.map_some,
        Option.filter_some, if_pos hasked] at hover
      cases hover
  | stopped => exact absurd hover (hsame _ rfl)

/-- The work on a job that has begun and is over after an event leaves nothing behind. -/
theorem clears_step {event : Event} (hfind : state.openTask? number = some task)
    (hbegun : task.isWaiting = false)
    (hover : (state.step config event).openTask? number = none) :
    Clears config task.job state (state.step config event) := by
  obtain ⟨taskEvent, rfl⟩ := exists_task_of_over hfind hover
  exact clears_stepTask hfind hbegun hover

end State

end Montage.Worker
