/-
  Montage.Proofs.Worker.Task

  What every step of a task keeps.  A task stays the task of its job and never waits for
  its first step again, and of the table it changes rows only in ways that leave the
  queue behind.
-/
import Montage.Proofs.Jobs.Queue
import Montage.Worker.Submission
import Montage.Worker.Task

namespace Montage.Worker

open Montage.Asset Montage.File Montage.Jobs Montage.Timeline

/-! ## The table -/

namespace World

theorem store_onFiles {α : Type} (call : Call α) (world : World) :
    (world.onFiles call).2.store = world.store := rfl

theorem store_of_onFiles {α : Type} {call : Call α} {world after : World}
    {result : Except Fault α} (h : world.onFiles call = (result, after)) :
    after.store = world.store := by
  rw [← store_onFiles call world, h]

theorem files_onFiles {α : Type} (call : Call α) (world : World) :
    (world.onFiles call).2.files = (call.run.run world.files).2 := rfl

theorem files_change (change : Store → Except Fault Store) (world : World) :
    (world.change change).2.files = world.files := by
  unfold World.change
  split <;> rfl

theorem files_write (change : Store → Except Fault Store) (reply : Reply) (world : World) :
    (world.write change reply).2.files = world.files := by
  unfold World.write
  split
  · exact files_change change world
  · rfl
  · split
    · exact files_change change world
    · rfl

theorem advances_change {change : Store → Except Fault Store} (world : World)
    (h : ∀ store after, change store = .ok after → Store.Advances store after) :
    Store.Advances world.store (world.change change).2.store := by
  cases hchange : change world.store with
  | ok after =>
      have hstore : (world.change change).2.store = after := by simp [World.change, hchange]
      rw [hstore]
      exact h world.store after hchange
  | error fault =>
      have hstore : (world.change change).2.store = world.store := by simp [World.change, hchange]
      rw [hstore]
      exact Store.Advances.refl world.store

theorem advances_write {change : Store → Except Fault Store} (reply : Reply) (world : World)
    (h : ∀ store after, change store = .ok after → Store.Advances store after) :
    Store.Advances world.store (world.write change reply).2.store := by
  cases reply with
  | genuine => exact advances_change world h
  | «instead» value => exact Store.Advances.refl world.store
  | raises fault committed =>
      cases committed with
      | true => exact advances_change world h
      | false => exact Store.Advances.refl world.store

end World

theorem store_of_readReply {config : Config} {job : Job} {reply : Reply} {world after : World}
    {result : Except Fault String} (h : readReply config job reply world = (result, after)) :
    after.store = world.store := by
  unfold readReply at h
  split at h <;> exact (Prod.mk.inj h).2 ▸ rfl

theorem store_of_uploadReply {config : Config} {job : Job} {reply : Reply} {world after : World}
    {result : Except Fault Unit} (h : uploadReply config job reply world = (result, after)) :
    after.store = world.store := by
  cases reply with
  | raises fault committed =>
      cases committed <;> exact (Prod.mk.inj h).2 ▸ rfl
  | _ => exact (Prod.mk.inj h).2 ▸ rfl

theorem store_of_signReply {config : Config} {job : Job} {reply : Reply} {world after : World}
    {result : Except Fault Json} (h : signReply config job reply world = (result, after)) :
    after.store = world.store := by
  cases reply <;> exact (Prod.mk.inj h).2 ▸ rfl

namespace Task

theorem advances_pendingWrite (task : Task) (store after : Store)
    (h : task.pendingWrite store = .ok after) : Store.Advances store after := by
  cases hphase : task.phase with
  | rendering run =>
      cases hstage : run.stage with
      | reporting progress =>
          simp only [pendingWrite, hphase, hstage] at h
          exact Store.advances_setProgress h
      | _ =>
          simp only [pendingWrite, hphase, hstage] at h
          exact Except.ok.inj h ▸ Store.Advances.refl store
  | completing url =>
      simp only [pendingWrite, hphase] at h
      exact Store.advances_markCompleted h
  | failing message cancelled =>
      simp only [pendingWrite, hphase] at h
      exact Store.advances_markFailed h
  | _ =>
      simp only [pendingWrite, hphase] at h
      exact Except.ok.inj h ▸ Store.Advances.refl store

/-! ## The same task later -/

/-- The same task at a later time: it does not go back to waiting for its first step. -/
structure Later (before after : Task) : Prop where
  number : after.number = before.number
  job : after.job = before.job
  begun : after.phase = .created → before.phase = .created

theorem Later.refl (task : Task) : Later task task :=
  ⟨rfl, rfl, id⟩

theorem later_moveTo {phase : Phase} (h : phase ≠ .created) (task : Task) :
    Later task (task.moveTo phase) :=
  ⟨rfl, rfl, fun heq => absurd heq h⟩

theorem later_fail (fault : Fault) (task : Task) : Later task (task.fail fault) :=
  later_moveTo (by nofun) task

theorem later_compileWith (config : Config) (document : Document) (locators : Locators)
    (task : Task) : Later task (task.compileWith config document locators) := by
  unfold compileWith
  split
  · exact later_moveTo (by nofun) task
  · exact later_fail _ task

theorem later_useAsset (config : Config) (document : Document) (gathering : Gathering)
    (task : Task) : Later task (task.useAsset config document gathering) := by
  unfold useAsset
  split
  · exact later_moveTo (by nofun) task
  · exact later_fail _ task
  · exact later_compileWith config document _ task

theorem later_useRun (run : Engine.Run) (task : Task) : Later task (task.useRun run) := by
  unfold useRun
  split
  · exact later_moveTo (by nofun) task
  · exact later_fail _ task
  · exact later_moveTo (by nofun) task
  · exact later_moveTo (by nofun) task

/-! ## Steps -/

/-- What a step of a task keeps. -/
structure Keeps (world : World) (task : Task) (result : World × Task) : Prop where
  later : Later task result.2
  advances : Store.Advances world.store result.1.store

theorem Keeps.of_store {world : World} {task : Task} {result : World × Task}
    (hlater : Later task result.2) (hstore : result.1.store = world.store) :
    Keeps world task result :=
  ⟨hlater, hstore ▸ Store.Advances.refl world.store⟩

theorem keeps_useText (config : Config) (text : String) (world : World) (task : Task) :
    Keeps world task (task.useText config text world) := by
  unfold useText
  split
  · exact .of_store (later_fail _ task) rfl
  · split
    · exact .of_store (later_compileWith config _ _ task) rfl
    · split
      next hmade => exact .of_store (later_fail _ task) (World.store_of_onFiles hmade)
      next hmade =>
        exact .of_store (later_moveTo (by nofun) task) (World.store_of_onFiles hmade)

theorem keeps_conclude {world after : World} (config : Config) (ending : Ending) (task : Task)
    (h : Store.Advances world.store after.store) :
    Keeps world task (task.conclude config ending after) := by
  unfold conclude
  constructor
  · exact later_moveTo (by nofun) task
  · dsimp only
    rw [World.store_onFiles]
    exact h

theorem keeps_cancelAt (config : Config) (committed : Bool) (world : World) (task : Task) :
    Keeps world task (task.cancelAt config committed world) := by
  have hwrite : Store.Advances world.store
      (if committed then (world.change task.pendingWrite).2 else world).store := by
    cases committed with
    | true => exact World.advances_change world task.advances_pendingWrite
    | false => exact Store.Advances.refl world.store
  unfold cancelAt
  generalize (if committed then (world.change task.pendingWrite).2 else world) = after at hwrite
  dsimp only
  split
  · exact ⟨later_moveTo (by nofun) task, hwrite⟩
  · exact ⟨later_useRun _ task, hwrite⟩
  · exact keeps_conclude config _ task hwrite
  · exact ⟨Later.refl task, hwrite⟩
  · exact ⟨later_moveTo (by nofun) task, hwrite⟩

theorem step_cancel (config : Config) (committed : Bool) (world : World) (task : Task) :
    task.step config (.cancel committed) world = task.cancelAt config committed world := by
  unfold step
  cases task.phase <;> rfl

theorem Keeps.refl (world : World) (task : Task) : Keeps world task (world, task) :=
  ⟨Later.refl task, Store.Advances.refl world.store⟩

theorem keeps_step (config : Config) (event : TaskEvent) (world : World) (task : Task) :
    Keeps world task (task.step config event world) := by
  have hwrite : ∀ reply, Store.Advances world.store (world.write task.pendingWrite reply).2.store :=
    fun reply => World.advances_write reply world task.advances_pendingWrite
  unfold step
  split
  · split
    next hmade => exact .of_store (later_moveTo (by nofun) task) (World.store_of_onFiles hmade)
    next hmade => exact .of_store (later_fail _ task) (World.store_of_onFiles hmade)
  · split
    next text after hread =>
      have hkeeps := keeps_useText config text after task
      exact ⟨hkeeps.later, store_of_readReply hread ▸ hkeeps.advances⟩
    next hread => exact .of_store (later_fail _ task) (store_of_readReply hread)
  · split
    · exact .of_store (later_useAsset config _ _ task) rfl
    · exact .refl world task
  · exact .of_store (later_moveTo (by nofun) task) rfl
  · exact .of_store (later_fail _ task) rfl
  · exact .of_store (later_useRun _ task) rfl
  · split
    next => exact ⟨later_useRun _ task, hwrite _⟩
    next => exact .refl world task
  · split
    next hupload =>
      exact .of_store (later_moveTo (by nofun) task) (store_of_uploadReply hupload)
    next hupload => exact .of_store (later_fail _ task) (store_of_uploadReply hupload)
  · split
    next hsign => exact .of_store (later_moveTo (by nofun) task) (store_of_signReply hsign)
    next hsign => exact .of_store (later_fail _ task) (store_of_signReply hsign)
  · rename_i reply _ _
    have hdone := hwrite reply
    split
    next after hresult =>
      rw [hresult] at hdone
      exact keeps_conclude config _ task hdone
    next fault after hresult =>
      rw [hresult] at hdone
      exact ⟨later_fail _ task, hdone⟩
  · exact keeps_conclude config _ task (hwrite _)
  · exact keeps_cancelAt config _ world task
  · exact .refl world task

end Task

end Montage.Worker
