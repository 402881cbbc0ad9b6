/-
  Montage.Proofs.Worker.Work

  What a step of a task makes of the row of its job.  It reports progress, completes the
  row or records a failure with its code, and after the last two the task is over.
-/
import Montage.Proofs.Asset.Gathering
import Montage.Proofs.Engine.Reports
import Montage.Proofs.File.Faults
import Montage.Proofs.Jobs.Lifecycle
import Montage.Proofs.Worker.Task

namespace Montage.Worker

open Montage.Asset Montage.File Montage.Jobs Montage.Timeline

/-! ## Messages -/

theorem errorMessage_of_isForeign {fault : Fault} (h : fault.IsForeign) :
    errorMessage fault = "INTERNAL_ERROR: " ++ fault.message := by
  unfold errorMessage
  split
  next failure => exact absurd rfl (h failure)
  next => rfl

theorem isCoded_errorMessage {fault : Fault} (h : fault.HasCode) :
    IsCoded (errorMessage fault) := by
  rcases fault.isForeign_or_failed with hforeign | ⟨failure, rfl⟩
  · refine ⟨"INTERNAL_ERROR", fault.message, ?_, by decide⟩
    rw [errorMessage_of_isForeign hforeign]
    rfl
  · exact Failure.isCoded_text h

theorem isCoded_cancelledMessage : IsCoded cancelledMessage :=
  ⟨"CANCELLED", "Worker shut down before the export finished", by decide, by decide⟩

theorem hasCode_unreadable (job : Job) (fault : Fault) : (unreadable job fault).HasCode :=
  Fault.hasCode_of .inputFetch _

theorem hasCode_unpublished (job : Job) (fault : Fault) : (unpublished job fault).HasCode :=
  Fault.hasCode_of .upload _

theorem hasCode_of_loadDocument {key text : String} {fault : Fault}
    (h : loadDocument key text = .error fault) : fault.HasCode := by
  unfold loadDocument at h
  split at h
  · cases h
    exact trivial
  · cases h
    exact Fault.hasCode_of .inputFetch _
  · split at h
    · cases h
    · cases h
      exact Fault.hasCode_of .timelineParse _

/-! ## Faults of calls -/

theorem World.isForeign_of_onFiles {α : Type} {call : Call α} {world after : World} {fault : Fault}
    (hcall : Call.Raises Fault.IsForeign call) (h : world.onFiles call = (.error fault, after)) :
    fault.IsForeign :=
  hcall world.files fault (congrArg Prod.fst h)

/-- An asset that cannot be delivered did not come, or could not be written. -/
theorem World.fault_of_deliver {directory : Path} {received : Except Fault Received} {world : World}
    {fault : Fault} (h : (world.onFiles (deliver directory received)).1 = .error fault) :
    received = .error fault ∨ fault.IsForeign := by
  cases received with
  | error raised =>
      cases h
      exact .inl rfl
  | ok file =>
      have hwrite : Call.Raises Fault.IsForeign (do
          Call.write (directory.child file.name) file.bytes
          return (directory.child file.name).text) :=
        Call.raises_bind (Call.raises_write _ _) fun _ => Call.raises_pure _ _
      exact .inr (hwrite world.files fault h)

theorem hasCode_of_mapError {α : Type} {wrap : Fault → Fault}
    (hwrap : ∀ raised, (wrap raised).HasCode) {result : Except Fault α} {fault : Fault}
    (h : result.mapError wrap = .error fault) :
    fault.HasCode := by
  cases result with
  | error raised =>
      cases h
      exact hwrap raised
  | ok a => cases h

theorem hasCode_startFault {fault : Fault} (h : fault.HasCode) :
    (Engine.startFault fault).HasCode := by
  unfold Engine.startFault
  split
  · exact Fault.hasCode_ofEngine .engine _ _
  · exact h

theorem hasCode_of_readReply {config : Config} {job : Job} {reply : Reply} {world after : World}
    {fault : Fault} (h : readReply config job reply world = (.error fault, after)) :
    fault.HasCode := by
  unfold readReply at h
  split at h
  · exact hasCode_of_mapError (hasCode_unreadable job) (Prod.mk.inj h).1
  · cases h
  · cases h
    exact trivial
  · cases h
    exact hasCode_unreadable job _

theorem hasCode_of_uploadReply {config : Config} {job : Job} {reply : Reply} {world after : World}
    {fault : Fault} (h : uploadReply config job reply world = (.error fault, after)) :
    fault.HasCode := by
  cases reply with
  | genuine => exact hasCode_of_mapError (hasCode_unpublished job) (Prod.mk.inj h).1
  | «instead» value => cases h
  | raises raised committed =>
      cases h
      exact hasCode_unpublished job raised

theorem hasCode_of_signReply {config : Config} {job : Job} {reply : Reply} {world after : World}
    {fault : Fault} (h : signReply config job reply world = (.error fault, after)) :
    fault.HasCode := by
  cases reply with
  | genuine =>
      have hmapped : ((world.onFiles (config.output.downloadUrl job.outputKey)).1.mapError
          (unpublished job)).map Json.str = .error fault := (Prod.mk.inj h).1
      exact hasCode_of_mapError (hasCode_unpublished job) (error_of_map_eq_error hmapped)
  | «instead» value => cases h
  | raises raised committed =>
      cases h
      exact hasCode_unpublished job raised

/-! ## Statements -/

theorem World.change_of_ok {change : Store → Except Fault Store} {world : World} {after : Store}
    (h : change world.store = .ok after) :
    world.change change = (none, { world with store := after }) := by
  rw [World.change, h]

theorem World.change_of_error {change : Store → Except Fault Store} {world : World} {fault : Fault}
    (h : change world.store = .error fault) : world.change change = (some fault, world) := by
  rw [World.change, h]

/-- A statement is carried out, or the table stays as it is. -/
theorem World.store_write (change : Store → Except Fault Store) (reply : Reply) (world : World) :
    (world.write change reply).2.store = world.store ∨
      change world.store = .ok (world.write change reply).2.store := by
  have hchange : (world.change change).2.store = world.store ∨
      change world.store = .ok (world.change change).2.store := by
    cases h : change world.store with
    | ok after =>
        rw [World.change_of_ok h]
        exact .inr rfl
    | error fault =>
        rw [World.change_of_error h]
        exact .inl rfl
  cases reply with
  | genuine => exact hchange
  | «instead» value => exact .inl rfl
  | raises fault committed =>
      cases committed with
      | true => exact hchange
      | false => exact .inl rfl

/-! ## Events -/

/-- What can be relied on in an event of a task.  A failure that comes from outside has a
    code, and a url that comes from outside is a text; and a statement that fails or is
    cancelled has no effect. -/
def TaskEvent.IsFaithful : TaskEvent → Prop
  | .asset _ (.error fault) => fault.HasCode
  | .launched (some fault) => fault.HasCode
  | .engine event => event.HasCode
  | .signed (.instead url) => ∃ text, url = .str text
  | .completionWritten (.raises fault committed) => fault.HasCode ∧ committed = false
  | .cancel committed => committed = false
  | _ => True

theorem exists_text_of_signReply {config : Config} {job : Job} {reply : Reply} {world after : World}
    {url : Json} (hevent : (TaskEvent.signed reply).IsFaithful)
    (h : signReply config job reply world = (.ok url, after)) : ∃ text, url = .str text := by
  cases reply with
  | genuine =>
      have hmapped : ((world.onFiles (config.output.downloadUrl job.outputKey)).1.mapError
          (unpublished job)).map Json.str = .ok url := (Prod.mk.inj h).1
      obtain ⟨text, -, htext⟩ := exists_of_map_eq_ok hmapped
      exact ⟨text, htext⟩
  | «instead» value =>
      cases h
      exact hevent
  | raises fault committed => cases h

/-- What a task may be about to do at its phase. -/
def Phase.Sound : Phase → Prop
  | .fetching _ gathering => gathering.failure? = none
  | .rendering run => run.stage.Sound
  | .completing url => ∃ text, url = .str text
  | .failing message _ => IsCoded message
  | _ => True

namespace Task

/-! ## Steps -/

/-- What a step of an open task makes of the table and of the task. -/
structure Works (world : World) (task : Task) (result : World × Task) : Prop where
  table : Store.WorkStep task.job.id world.store (!result.2.isOver) result.1.store
  sound : result.2.phase.Sound

theorem Works.of_store {world : World} {task : Task} {result : World × Task}
    (hsound : result.2.phase.Sound) (hstore : result.1.store = world.store) :
    Works world task result :=
  ⟨hstore ▸ .idle _, hsound⟩

theorem sound_fail {fault : Fault} (h : fault.HasCode) (task : Task) :
    (task.fail fault).phase.Sound :=
  isCoded_errorMessage h

theorem sound_compileWith (config : Config) (document : Document) (locators : Locators)
    (task : Task) : (task.compileWith config document locators).phase.Sound := by
  unfold compileWith
  split
  · exact trivial
  next error _ =>
    have hcode : (Fault.arithmetic error).HasCode := trivial
    exact isCoded_errorMessage hcode

theorem sound_useText (config : Config) (text : String) (world : World) (task : Task) :
    (task.useText config text world).2.phase.Sound := by
  unfold useText
  split
  next hload => exact sound_fail (hasCode_of_loadDocument hload) task
  next document _ =>
    split
    · exact sound_compileWith config document [] task
    · split
      next hmake =>
        have hforeign := World.isForeign_of_onFiles (Call.raises_makeDirectories _) hmake
        exact sound_fail hforeign.hasCode task
      next => exact Gathering.failure?_start _

theorem store_useText (config : Config) (text : String) (world : World) (task : Task) :
    (task.useText config text world).1.store = world.store := by
  unfold useText
  split
  · rfl
  · split
    · rfl
    · split
      next hmake => exact World.store_of_onFiles hmake
      next hmake => exact World.store_of_onFiles hmake

theorem sound_useAsset (config : Config) (document : Document) {gathering : Gathering}
    (hnone : gathering.failure? = none) {mediaId : String} (hawaits : gathering.awaits mediaId)
    {result : Except Fault String} (hresult : ∀ fault, result = .error fault → fault.HasCode)
    (task : Task) :
    (task.useAsset config document (gathering.finish mediaId result)).phase.Sound := by
  cases result with
  | error fault =>
      rw [useAsset, Gathering.outcome?_finish_error hnone hawaits fault]
      exact sound_fail (hresult fault rfl) task
  | ok place =>
      have hstill := Gathering.failure?_finish_ok hnone mediaId place
      rw [useAsset, Gathering.outcome?_of_failure?_eq_none hstill]
      cases (gathering.finish mediaId (.ok place)).isRunning with
      | true => exact hstill
      | false => exact sound_compileWith config document _ task

theorem sound_useRun {run : Engine.Run} (h : run.stage.Sound) (task : Task) :
    (task.useRun run).phase.Sound := by
  unfold useRun
  split
  next => exact trivial
  next hstage =>
    rw [hstage] at h
    exact sound_fail h task
  next => exact isCoded_cancelledMessage
  next => exact h

theorem works_progress {task : Task} {run : Engine.Run} (hphase : task.phase = .rendering run)
    {progress : Int} (hstage : run.stage = .reporting progress) (h : run.stage.Sound)
    (reply : Reply) (world : World) :
    Works world task
      ((world.write task.pendingWrite reply).2, task.useRun (run.step .reported)) := by
  have hbounds : 0 ≤ progress ∧ progress ≤ 99 := by
    rw [hstage] at h
    exact h
  have hpending : task.pendingWrite = Store.setProgress task.job.id (.int progress) := by
    funext store
    simp only [pendingWrite, hphase, hstage]
  refine ⟨?_, sound_useRun (Engine.Run.sound_step h .reported trivial) task⟩
  rcases World.store_write task.pendingWrite reply world with hsame | hwritten
  · rw [hsame]
    exact .idle _
  · rw [hpending] at hwritten ⊢
    exact Store.workStep_setProgress hbounds hwritten _

theorem works_conclude {world after : World} {task : Task} (config : Config) (ending : Ending)
    (h : Store.WorkStep task.job.id world.store false after.store) :
    Works world task (task.conclude config ending after) := by
  refine ⟨?_, trivial⟩
  rw [conclude, World.store_onFiles]
  exact h

theorem works_completion (config : Config) {task : Task} {url : Json}
    (hphase : task.phase = .completing url) (h : task.phase.Sound) {reply : Reply}
    (hevent : (TaskEvent.completionWritten reply).IsFaithful) (world : World) :
    Works world task
      (match world.write task.pendingWrite reply with
        | (none, world) => task.conclude config .finished world
        | (some fault, world) => (world, task.fail fault)) := by
  rw [hphase] at h
  obtain ⟨text, rfl⟩ := h
  have hpending : task.pendingWrite = Store.markCompleted task.job.id (.str text) := by
    funext store
    simp only [pendingWrite, hphase]
  rw [hpending]
  cases reply with
  | genuine =>
      cases hmark : world.store.markCompleted task.job.id (.str text) with
      | ok after =>
          rw [World.write, World.change_of_ok hmark]
          exact works_conclude config .finished (Store.workStep_markCompleted hmark)
      | error fault =>
          rw [World.write, World.change_of_error hmark]
          have hforeign := Store.isForeign_of_markCompleted hmark
          exact .of_store (sound_fail hforeign.hasCode task) rfl
  | «instead» value => exact works_conclude config .finished (.idle _)
  | raises fault committed =>
      obtain ⟨hcode, rfl⟩ := hevent
      exact .of_store (sound_fail hcode task) rfl

theorem works_failure (config : Config) {task : Task} {message : String} {cancelled : Bool}
    (hphase : task.phase = .failing message cancelled) (h : task.phase.Sound) (reply : Reply)
    (ending : Ending) (world : World) :
    Works world task (task.conclude config ending (world.write task.pendingWrite reply).2) := by
  rw [hphase] at h
  have hpending : task.pendingWrite = Store.markFailed task.job.id (.str message) := by
    funext store
    simp only [pendingWrite, hphase]
  refine works_conclude config ending ?_
  rcases World.store_write task.pendingWrite reply world with hsame | hwritten
  · rw [hsame]
    exact .idle _
  · rw [hpending] at hwritten ⊢
    exact Store.workStep_markFailed h hwritten

/-- A cancelled call has had no effect on the table. -/
theorem works_cancelAt (config : Config) (world : World) {task : Task} (h : task.phase.Sound) :
    Works world task (task.cancelAt config false world) := by
  unfold cancelAt
  dsimp only
  split
  · exact .of_store trivial rfl
  · rename_i run hphase
    rw [hphase] at h
    exact .of_store (sound_useRun (Engine.Run.sound_step h .cancelled trivial) task) rfl
  · exact works_conclude config .cancelled (.idle _)
  · exact .of_store h rfl
  · exact .of_store isCoded_cancelledMessage rfl

theorem works_asset (config : Config) {document : Document} {gathering : Gathering}
    (hnone : gathering.failure? = none) {mediaId : String} (hawaits : gathering.awaits mediaId)
    {received : Except Fault Received} (hevent : (TaskEvent.asset mediaId received).IsFaithful)
    (world : World) (task : Task) :
    let delivered := world.onFiles (deliver (assetDirectory config task.job.id) received)
    Works world task
      (delivered.2, task.useAsset config document (gathering.finish mediaId delivered.1)) := by
  intro delivered
  refine .of_store (sound_useAsset config document hnone hawaits ?_ task) rfl
  intro fault hfault
  rcases World.fault_of_deliver hfault with rfl | hforeign
  · exact hevent
  · exact hforeign.hasCode

/-- Every step of a task keeps to what a task may do. -/
theorem works_step (config : Config) {event : TaskEvent} (hevent : event.IsFaithful)
    (world : World) {task : Task} (h : task.phase.Sound) :
    Works world task (task.step config event world) := by
  unfold step
  split
  · split
    next hmake => exact .of_store trivial (World.store_of_onFiles hmake)
    next hmake =>
      have hforeign := World.isForeign_of_onFiles (Call.raises_makeDirectories _) hmake
      exact .of_store (sound_fail hforeign.hasCode task) (World.store_of_onFiles hmake)
  · split
    next text after hread =>
      have hstore := (store_useText config text after task).trans (store_of_readReply hread)
      exact .of_store (sound_useText config text after task) hstore
    next hread =>
      exact .of_store (sound_fail (hasCode_of_readReply hread) task) (store_of_readReply hread)
  · rename_i hphase
    split
    next hawaits =>
      rw [hphase] at h
      exact works_asset config h hawaits hevent world task
    next => exact .of_store h rfl
  · exact .of_store trivial rfl
  · exact .of_store (sound_fail (hasCode_startFault hevent) task) rfl
  · rename_i hphase
    rw [hphase] at h
    exact .of_store (sound_useRun (Engine.Run.sound_step h _ hevent) task) rfl
  · rename_i hphase
    split
    next hstage =>
      rw [hphase] at h
      exact works_progress hphase hstage h _ world
    next => exact .of_store h rfl
  · split
    next hupload => exact .of_store trivial (store_of_uploadReply hupload)
    next hupload =>
      exact .of_store (sound_fail (hasCode_of_uploadReply hupload) task)
        (store_of_uploadReply hupload)
  · split
    next hsign => exact .of_store (exists_text_of_signReply hevent hsign) (store_of_signReply hsign)
    next hsign =>
      exact .of_store (sound_fail (hasCode_of_signReply hsign) task) (store_of_signReply hsign)
  · rename_i hphase
    exact works_completion config hphase h hevent world
  · rename_i hphase
    exact works_failure config hphase h _ _ world
  · obtain rfl := hevent
    exact works_cancelAt config world h
  · exact .of_store h rfl

end Task

end Montage.Worker
