/-
  Montage.Proofs.Worker.Processing

  What the export of a job comes to.  The first stage that has no result decides what the
  row says, and nothing that belongs to a later stage is done.
-/
import Montage.Proofs.Compile.Ledger
import Montage.Proofs.Timeline.Reloaded
import Montage.Proofs.Worker.Rendering
import Montage.Proofs.Worker.Stages

namespace Montage.Worker

open Montage.Asset Montage.Compile Montage.File Montage.Jobs Montage.Number Montage.Timeline

namespace Answers

/-! ## What answers have to be -/

/-- Answers that are enough for an export without a cancellation: the assets and the
    engine come to an end, and a failure can be recorded. -/
structure Complete (config : Config) (job : Job) (answers : Answers) : Prop where
  assets : ∀ document, answers.loaded config job = .ok document →
    (gathered (assetDirectory config job.id) answers.assets
      (.start (wanted document))).isRunning = false
  engine : answers.launch.2 = none → ∃ verdict, (answers.run job).stage = .ended verdict
  /-- The row is not said to be completed without being it. -/
  completion : ∀ value, answers.completion.2 ≠ .instead value
  completionRow : ∃ row, answers.completion.1.store.find? job.id = some row
  failure : answers.failure.2 = .genuine
  failureRow : ∃ row, answers.failure.1.store.find? job.id = some row
  failureText : ∀ trouble, answers.outcome config job = .error trouble →
    ∃ text, Cell.text (.str (trouble.message job)) = .ok text

/-- Whether an asset has come and was written to its place. -/
def Delivered (config : Config) (job : Job) (answers : Answers) (mediaId : String) : Prop :=
  ∃ world received place, (world, mediaId, received) ∈ answers.assets ∧
    (world.onFiles (deliver (assetDirectory config job.id) received)).1 = .ok place

/-- The table with the outcome in it. -/
def recordedStore (config : Config) (job : Job) (answers : Answers) : Except Fault Store :=
  match answers.outcome config job with
  | .ok url => answers.completion.1.store.markCompleted job.id url
  | .error trouble => answers.failure.1.store.markFailed job.id (.str (trouble.message job))

/-- What a row says about the outcome of its job. -/
def Settles (config : Config) (job : Job) (answers : Answers) (row : Job) : Prop :=
  match answers.outcome config job with
  | .ok url => row.status = .completed ∧ Cell.text url = .ok row.downloadUrl
  | .error trouble => row.status = .failed ∧ row.errorMessage = some (trouble.message job)

theorem settles_iff_of_error {config : Config} {job row : Job} {answers : Answers}
    {trouble : Trouble} (herror : answers.outcome config job = .error trouble) :
    answers.Settles config job row ↔
      row.status = .failed ∧ row.errorMessage = some (trouble.message job) := by
  unfold Settles
  rw [herror]

end Answers

/-- A write says what its call comes to. -/
theorem World.write_fst (change : Store → Except Fault Store) (reply : Reply) (world : World) :
    (world.write change reply).1 =
      match reply.success ((change world.store).map fun _ => ()) with
      | .ok () => none
      | .error fault => some fault := by
  cases reply with
  | genuine =>
      cases hchange : change world.store with
      | ok after =>
          rw [World.write, World.change_of_ok hchange]
          rfl
      | error fault =>
          rw [World.write, World.change_of_error hchange]
          rfl
  | «instead» value => rfl
  | raises fault committed => rfl

namespace Task

/-- The work on a task from its first step on. -/
def process (config : Config) (answers : Answers) (world : World) (task : Task) : World × Task :=
  pass config answers.moments (world, task)

variable {config : Config} {task : Task} {answers : Answers}

/-! ## Stages in order -/

theorem leads_preparing (h : answers.Complete config task.job) (hphase : task.phase = .created) :
    task.Leads config answers.preparing (answers.prepared config task.job) 0 6
      fun compilation phase => phase = .starting compilation.arguments := by
  refine Leads.bind (leads_scratch hphase) (fun _ moved hjob hmoved => ?_) ?_ (by decide)
    (by decide)
  · have hassets := h.assets
    rw [← hjob] at hassets
    have hrest := leads_reading hmoved hassets
    rw [hjob] at hrest
    exact hrest
  · exact List.forall_mem_cons.mpr ⟨trivial, isForward_assetMoments answers.assets⟩

theorem leads_filming (h : answers.Complete config task.job) (hphase : task.phase = .created) :
    task.Leads config answers.filming (answers.filmed config task.job) 0 7
      fun _ phase => phase = .uploading := by
  refine Leads.bind (leads_preparing h hphase) (fun _ moved hjob hmoved => ?_) ?_ (by decide)
    (by decide)
  · have hengine := h.engine
    rw [← hjob] at hengine
    have hrest : moved.Leads config _ _ 6 7 _ := leads_rendering hmoved hengine
    rw [hjob] at hrest
    exact hrest
  · exact List.forall_mem_cons.mpr ⟨trivial, isForward_engineMoments answers.engine⟩

theorem leads_publishing (h : answers.Complete config task.job) (hphase : task.phase = .created) :
    task.Leads config answers.publishing (answers.published config task.job) 0 9
      fun url phase => phase = .completing url := by
  refine Leads.bind (leads_filming h hphase) (fun _ moved hjob hmoved => ?_) ?_ (by decide)
    (by decide)
  · rw [← hjob]
    refine Leads.bind (leads_upload hmoved) (fun _ last hsame hlast => ?_) ?_ (by decide)
      (by decide)
    · rw [← hsame]
      exact leads_sign hlast
    · exact List.forall_mem_singleton.mpr trivial
  · exact List.forall_mem_cons.mpr ⟨trivial, List.forall_mem_singleton.mpr trivial⟩

theorem step_completionWritten {url : Json} (hphase : task.phase = .completing url) (reply : Reply)
    (world : World) :
    task.step config (.completionWritten reply) world =
      match world.write (Store.markCompleted task.job.id url) reply with
      | (none, world) => task.conclude config .finished world
      | (some fault, world) => (world, task.fail fault) := by
  have hpending : task.pendingWrite = Store.markCompleted task.job.id url := by
    funext store
    simp only [pendingWrite, hphase]
  rcases hwrite : world.write (Store.markCompleted task.job.id url) reply with ⟨fault, after⟩
  unfold step
  cases fault <;> simp only [hphase, hpending, hwrite]

theorem leads_recording {url : Json} (hphase : task.phase = .completing url) :
    task.Leads config [(answers.completion.1, .completionWritten answers.completion.2)]
      (Stage.recording.attempt (answers.recorded task.job url)) 9 10
      fun _ phase => phase = .ended .finished := by
  have hwithin : task.phase.Within 9 := by
    rw [hphase]
    exact Phase.within_of .recording rfl
  have hstep : task.step config (.completionWritten answers.completion.2)
      answers.completion.1 = _ :=
    step_completionWritten hphase answers.completion.2 answers.completion.1
  have hwrite := World.write_fst (Store.markCompleted task.job.id url) answers.completion.2
    answers.completion.1
  rcases hwritten : answers.completion.1.write (Store.markCompleted task.job.id url)
    answers.completion.2 with ⟨raised, world⟩
  rw [hwritten] at hstep hwrite
  refine leads_stage hwithin (fun other hok => ?_) fun fault herror => ?_
  · obtain ⟨_, hsuccess, -⟩ := exists_of_bind_eq_ok hok
    rw [hsuccess] at hwrite
    have hnone : raised = none := hwrite
    show (task.step config (.completionWritten answers.completion.2)
      answers.completion.1).2.phase = _
    rw [hstep, hnone]
    rfl
  · rcases error_of_bind_eq_error herror with hsuccess | ⟨_, -, hend⟩
    · rw [hsuccess] at hwrite
      have hsome : raised = some fault := hwrite
      show (task.step config (.completionWritten answers.completion.2)
        answers.completion.1).2.phase = _
      rw [hstep, hsome]
      exact congrArg (Phase.failing · false) (errorMessage_eq fault)
    · cases hend

theorem leads_outcome (h : answers.Complete config task.job) (hphase : task.phase = .created) :
    task.Leads config
      (answers.publishing ++ [(answers.completion.1, .completionWritten answers.completion.2)])
      (answers.outcome config task.job) 0 10 fun _ phase => phase = .ended .finished := by
  refine Leads.bind (leads_publishing h hphase) (fun _ moved hjob hmoved => ?_) ?_ (by decide)
    (by decide)
  · rw [← hjob]
    exact leads_recording hmoved
  · exact List.forall_mem_singleton.mpr trivial

/-! ## The end -/

/-- The record of a url that succeeds ends the task and completes the row. -/
theorem step_completed (config : Config) {url : Json} (hphase : task.phase = .completing url)
    (hgenuine : ∀ value, answers.completion.2 ≠ .instead value) {given : Json}
    (hrecorded : answers.recorded task.job url = .ok given) :
    given = url ∧ ∃ after world,
      answers.completion.1.store.markCompleted task.job.id url = .ok after ∧
        world.store = after ∧
        task.step config (.completionWritten answers.completion.2) answers.completion.1 =
          task.conclude config .finished world := by
  obtain ⟨_, hsuccess, hgiven⟩ := exists_of_bind_eq_ok hrecorded
  refine ⟨(Except.ok.inj hgiven).symm, ?_⟩
  rw [step_completionWritten hphase]
  rcases hcompletion : answers.completion with ⟨world, reply⟩
  rw [hcompletion] at hsuccess hgenuine
  dsimp only at hsuccess ⊢
  cases reply with
  | genuine =>
      cases hmark : world.store.markCompleted task.job.id url with
      | ok after =>
          refine ⟨after, { world with store := after }, rfl, rfl, ?_⟩
          rw [World.write, World.change_of_ok hmark]
      | error fault =>
          rw [hmark] at hsuccess
          cases hsuccess
  | «instead» value => exact absurd rfl (hgenuine value)
  | raises fault committed => cases hsuccess

/-- The record of a failure ends the task and the row says so. -/
theorem step_failed {message : String} (hphase : task.phase = .failing message false)
    (hgenuine : answers.failure.2 = .genuine) {after : Store}
    (hmark : answers.failure.1.store.markFailed task.job.id (.str message) = .ok after) :
    task.step config (.failureWritten answers.failure.2) answers.failure.1 =
      task.conclude config .finished { answers.failure.1 with store := after } := by
  have hpending : task.pendingWrite = Store.markFailed task.job.id (.str message) := by
    funext store
    simp only [pendingWrite, hphase]
  unfold step
  rw [hphase, hgenuine]
  dsimp only
  rw [hpending, World.write, World.change_of_ok hmark]
  rfl

/-- How a task has ended, and what the table says then. -/
structure EndsWith (store : Store) (result : World × Task) : Prop where
  phase : result.2.phase = .ended .finished
  store : result.1.store = store

theorem EndsWith.isOver {store : Store} {result : World × Task} (h : EndsWith store result) :
    result.2.isOver = true := by
  rw [Task.isOver, h.phase]

theorem endsWith_conclude (config : Config) {world : World} {after : Store}
    (h : world.store = after) (task : Task) :
    EndsWith after (task.conclude config .finished world) := by
  constructor
  · rfl
  · rw [conclude, World.store_onFiles]
    exact h

/-- The record of a url that succeeds is the last moment. -/
theorem pass_of_ok (h : answers.Complete config task.job) (hphase : task.phase = .created)
    (world : World) {url : Json} (hok : answers.outcome config task.job = .ok url) :
    ∃ after, answers.completion.1.store.markCompleted task.job.id url = .ok after ∧
      EndsWith after (pass config answers.moments (world, task)) := by
  obtain ⟨given, hpublished, hattempt⟩ := exists_of_bind_eq_ok hok
  have hrecorded : answers.recorded task.job given = .ok url := Stage.attempt_eq_ok.mp hattempt
  have hcompleting : (pass config answers.publishing (world, task)).2.phase =
      .completing given := by
    rw [pass_snd]
    exact ((leads_publishing h hphase).arrives given hpublished).1
  have hjob : (pass config answers.publishing (world, task)).2.job = task.job := by
    rw [pass_snd]
    exact job_after answers.publishing task
  rw [Answers.moments, pass_append, pass_append]
  generalize pass config answers.publishing (world, task) = middle at hcompleting hjob ⊢
  have hopen : middle.2.isOver = false := by
    rw [isOver, hcompleting]
  rw [← hjob] at hrecorded ⊢
  obtain ⟨rfl, after, final, hmark, hstore, hstep⟩ :=
    step_completed config hcompleting h.completion hrecorded
  have hend := endsWith_conclude config hstore middle.2
  rw [pass_cons hopen, hstep, pass]
  -- nobody asks for the record of a failure any more
  rw [pass_of_isOver hend.isOver]
  exact ⟨after, hmark, hend⟩

/-- The record of a failure is the last moment. -/
theorem pass_of_error (h : answers.Complete config task.job) (hphase : task.phase = .created)
    (world : World) {trouble : Trouble}
    (herror : answers.outcome config task.job = .error trouble) :
    ∃ after, answers.failure.1.store.markFailed task.job.id (.str (trouble.message task.job)) =
        .ok after ∧
      EndsWith after (pass config answers.moments (world, task)) := by
  have hmark : ∃ after, answers.failure.1.store.markFailed task.job.id
      (.str (trouble.message task.job)) = .ok after := by
    obtain ⟨text, hcell⟩ := h.failureText trouble herror
    rw [Store.markFailed, hcell]
    exact ⟨_, rfl⟩
  obtain ⟨after, hmark⟩ := hmark
  have hfails := (leads_outcome h hphase).fails trouble herror
  rw [Answers.moments, pass_append]
  generalize hmiddle : pass config (answers.publishing ++
    [(answers.completion.1, TaskEvent.completionWritten answers.completion.2)]) (world, task) =
      middle
  have hfailing : middle.2.phase = .failing (trouble.message task.job) false := by
    rw [← hmiddle, pass_snd]
    exact hfails.1
  have hjob : middle.2.job = task.job := by
    rw [← hmiddle, pass_snd]
    exact job_after _ task
  have hopen : middle.2.isOver = false := by
    rw [isOver, hfailing]
  rw [← hjob] at hmark ⊢
  rw [← hjob] at hfailing
  refine ⟨after, hmark, ?_⟩
  rw [pass_cons hopen, pass, step_failed hfailing h.failure hmark]
  refine endsWith_conclude config ?_ middle.2
  rfl

/-! ## The way -/

/-- No stage after that of the trouble is come to. -/
theorem within_trail (h : answers.Complete config task.job) (hphase : task.phase = .created)
    {trouble : Trouble} (herror : answers.outcome config task.job = .error trouble) :
    ∀ phase ∈ task.trail config answers.moments, phase.Within trouble.stage.position := by
  have hfails := (leads_outcome h hphase).fails trouble herror
  rw [Answers.moments, trail_append]
  refine List.forall_mem_append.mpr ⟨hfails.2.2.2, List.forall_mem_singleton.mpr ?_⟩
  exact within_failing hfails.1 _

/-- What is done at a stage presupposes the results of earlier stages. -/
theorem exists_ok_of_mem_trail {α : Type} {earlier : Except Trouble α}
    (h : answers.Complete config task.job) (hphase : task.phase = .created) {phase : Phase}
    {stage : Stage} (hmem : phase ∈ task.trail config answers.moments)
    (hstage : phase.stage? = some stage)
    (hearlier : ∀ trouble, earlier = .error trouble →
      answers.outcome config task.job = .error trouble ∧
        trouble.stage.position < stage.position) :
    ∃ a, earlier = .ok a := by
  cases hresult : earlier with
  | ok a => exact ⟨a, rfl⟩
  | error trouble =>
      obtain ⟨houtcome, hbefore⟩ := hearlier trouble hresult
      have hwithin := within_trail h hphase houtcome phase hmem stage hstage
      exact absurd hbefore (Nat.not_lt_of_le hwithin)

theorem prepared_of_starting (h : answers.Complete config task.job) (hphase : task.phase = .created)
    {arguments : List String} (hmem : .starting arguments ∈ task.trail config answers.moments) :
    ∃ compilation, answers.prepared config task.job = .ok compilation := by
  refine exists_ok_of_mem_trail h hphase hmem rfl fun trouble htrouble => ⟨?_, ?_⟩
  · rw [Answers.outcome, Answers.published, Answers.filmed, htrouble]
    rfl
  · exact ((leads_preparing h hphase).fails trouble htrouble).2.2.1

theorem filmed_of_uploading (h : answers.Complete config task.job) (hphase : task.phase = .created)
    (hmem : .uploading ∈ task.trail config answers.moments) :
    ∃ done, answers.filmed config task.job = .ok done := by
  refine exists_ok_of_mem_trail h hphase hmem rfl fun trouble htrouble => ⟨?_, ?_⟩
  · rw [Answers.outcome, Answers.published, htrouble]
    rfl
  · exact ((leads_filming h hphase).fails trouble htrouble).2.2.1

end Task

/-! ## Assets in place -/

theorem passes_gathered {items : List Wanted} {gathering : Gathering}
    (h : gathering.Passes items) (directory : Path)
    (assets : List (World × String × Except Fault Received)) :
    (gathered directory assets gathering).Passes items := by
  induction assets generalizing gathering with
  | nil => exact h
  | cons asset rest ih =>
      obtain ⟨world, mediaId, received⟩ := asset
      rw [gathered]
      split
      next hawaits => exact ih (.finish mediaId _ h hawaits)
      next => exact ih h

/-- An asset is called off, or as it was before, or as one of the answers says. -/
theorem mem_gathered {directory : Path} {id : String} {state : TaskState}
    (assets : List (World × String × Except Fault Received)) {gathering : Gathering}
    (h : (id, state) ∈ (gathered directory assets gathering).tasks) :
    state = .cancelled ∨ (id, state) ∈ gathering.tasks ∨
      ∃ world received, (world, id, received) ∈ assets ∧
        state = .ofResult (world.onFiles (deliver directory received)).1 := by
  induction assets generalizing gathering with
  | nil => exact .inr (.inl h)
  | cons asset rest ih =>
      obtain ⟨world, mediaId, received⟩ := asset
      rw [gathered] at h
      split at h
      · rcases ih h with hcancelled | hbefore | ⟨other, file, hmem, hplace⟩
        · exact .inl hcancelled
        · rcases Gathering.mem_finish_cases hbefore with hcancelled | hstart | ⟨rfl, hresult⟩
          · exact .inl hcancelled
          · exact .inr (.inl hstart)
          · exact .inr (.inr ⟨world, received, List.mem_cons_self, hresult⟩)
        · exact .inr (.inr ⟨other, file, List.mem_cons_of_mem _ hmem, hplace⟩)
      · rcases ih h with hcancelled | hbefore | ⟨other, file, hmem, hplace⟩
        · exact .inl hcancelled
        · exact .inr (.inl hbefore)
        · exact .inr (.inr ⟨other, file, List.mem_cons_of_mem _ hmem, hplace⟩)

namespace Answers

variable {config : Config} {job : Job} {answers : Answers}

theorem outcome?_of_located {document : Document} {locators : Locators} {item : Wanted}
    (hitem : item ∈ wanted document)
    (hended : (gathered (assetDirectory config job.id) answers.assets
      (.start (wanted document))).isRunning = false)
    (h : answers.located config job document = .ok locators) :
    (gathered (assetDirectory config job.id) answers.assets (.start (wanted document))).outcome? =
      some (.ok locators) := by
  obtain ⟨outcome, houtcome⟩ := Gathering.exists_outcome hended
  rw [houtcome]
  unfold located at h
  cases hitems : wanted document with
  | nil =>
      rw [hitems] at hitem
      exact absurd hitem List.not_mem_nil
  | cons first rest =>
      rw [hitems] at h houtcome
      obtain ⟨_, -, hresult⟩ := exists_of_bind_eq_ok h
      rw [houtcome] at hresult
      exact congrArg some hresult

/-- Where the assets of a document are found, all of them have been put. -/
theorem delivered_of_located {document : Document} {locators : Locators}
    (hended : (gathered (assetDirectory config job.id) answers.assets
      (.start (wanted document))).isRunning = false)
    (h : answers.located config job document = .ok locators) :
    ∀ item ∈ wanted document, answers.Delivered config job item.mediaId := by
  intro item hitem
  have houtcome := outcome?_of_located hitem hended h
  have hstart : (Gathering.start (wanted document)).Passes (wanted document) := .start
  have hpasses := passes_gathered hstart (assetDirectory config job.id) answers.assets
  have hid : item.mediaId ∈ (gathered (assetDirectory config job.id) answers.assets
      (.start (wanted document))).tasks.map Prod.fst := by
    rw [Gathering.map_fst_of_passes hpasses]
    exact List.mem_map_of_mem hitem
  obtain ⟨⟨id, state⟩, hmem, rfl⟩ := List.mem_map.mp hid
  obtain ⟨place, rfl⟩ := Gathering.exists_finished hpasses houtcome hmem
  rcases mem_gathered answers.assets hmem with hcancelled | hbefore |
    ⟨world, received, hanswer, hplace⟩
  · cases hcancelled
  · simp [Gathering.start] at hbefore
  · exact ⟨world, received, place, hanswer, TaskState.ofResult_eq_finished.mp hplace.symm⟩

theorem exit_of_filmed {done : Unit} (h : answers.Complete config job)
    (hfilmed : answers.filmed config job = .ok done) :
    answers.launch.2 = none ∧ (answers.run job).exit = some 0 := by
  obtain ⟨compilation, -, hattempt⟩ := exists_of_bind_eq_ok hfilmed
  have hrendered : answers.rendered job = .ok done := Stage.attempt_eq_ok.mp hattempt
  unfold rendered at hrendered
  cases hlaunch : answers.launch.2 with
  | some fault =>
      rw [hlaunch] at hrendered
      cases hrendered
  | none =>
      rw [hlaunch] at hrendered
      obtain ⟨verdict, hstage⟩ := h.engine hlaunch
      have hstart : (Engine.Run.start true (.real job.duration)).stage.Orderly none := trivial
      have horderly : (answers.run job).stage.Orderly (answers.run job).exit :=
        Task.orderly_watched hstart answers.engine
      rw [hstage] at horderly
      dsimp only at hrendered
      rw [runResult, hstage] at hrendered
      cases verdict with
      | finished => exact ⟨rfl, horderly⟩
      | failed fault => cases hrendered
      | cancelled => exact horderly.elim

/-! ## Reports -/

/-- Only the events of the engine matter to its run. -/
theorem watched_eq_foldl (engine : List (World × EngineAnswer)) (run : Engine.Run) :
    watched engine run = (engine.map fun answer => answer.2.event).foldl Engine.Run.step run := by
  rw [watched, List.foldl_map]

section

variable {engine : List (World × EngineAnswer)}
  (hevents : (engine.map fun answer => answer.2.event) =
    answers.engine.map fun answer => answer.2.event)
include hevents

theorem run_of_events : run job { answers with engine } = answers.run job := by
  rw [run, run, watched_eq_foldl, watched_eq_foldl, hevents]

theorem outcome_of_events :
    outcome config job { answers with engine } = answers.outcome config job := by
  have hrendered : rendered job { answers with engine } = answers.rendered job := by
    rw [rendered, rendered, run_of_events hevents]
  rw [outcome, published, filmed, hrendered]
  rfl

theorem recordedStore_of_events :
    recordedStore config job { answers with engine } = answers.recordedStore config job := by
  have houtcome : outcome config job { answers with engine } = answers.outcome config job :=
    outcome_of_events hevents
  unfold recordedStore
  rw [houtcome]

/-- Other receptions of the same reports. -/
theorem Complete.of_events (h : answers.Complete config job) :
    Complete config job { answers with engine } where
  assets := h.assets
  engine := by
    rw [run_of_events hevents]
    exact h.engine
  completion := h.completion
  completionRow := h.completionRow
  failure := h.failure
  failureRow := h.failureRow
  failureText := by
    rw [outcome_of_events hevents]
    exact h.failureText

end

end Answers

/-! ## Stages that are known -/

/-- A timeline that was checked and stored is loaded as it was stored. -/
theorem Answers.loaded_of_stored {config : Config} {job : Job} {answers : Answers}
    {rule : ObjectRule} {value : Json} {document : Document} {text : String}
    (hvalue : value.Regular) (hvalid : checkDocument rule value = .valid document)
    (hstored : document.stored = .ok text) (hfinite : document.hasFiniteAmounts = true)
    (hread : answers.fetchedText config job = .ok (.str text)) :
    answers.loaded config job = .ok document.reloaded := by
  have hload := loadDocument_stored hvalue hvalid hstored job.inputKey
  have hagain := (restores_document rule value document hvalue hvalid _).mpr ⟨hfinite, rfl⟩
  rw [hagain] at hload
  rw [Answers.loaded, hread]
  show documentIn (.str text) = _
  rcases loadDocument_cases job text with ⟨other, hother, hdocument⟩ | ⟨raised, _, hraised, -⟩
  · rw [hdocument, Except.ok.inj (hother.symm.trans hload)]
  · rw [hload] at hraised
    cases hraised

/-- The engine is come to exactly if every stage before it has a result. -/
theorem Answers.prepared_eq_ok {config : Config} {job : Job} {answers : Answers}
    {compilation : Compilation} :
    answers.prepared config job = .ok compilation ↔
      answers.scratched config job = .ok () ∧ ∃ document, answers.loaded config job = .ok document ∧
        ∃ locators, answers.located config job document = .ok locators ∧
          compiled config document locators = .ok compilation := by
  constructor
  · intro h
    obtain ⟨_, hscratched, h⟩ := exists_of_bind_eq_ok h
    obtain ⟨document, hloaded, h⟩ := exists_of_bind_eq_ok h
    obtain ⟨locators, hlocated, hcompiled⟩ := exists_of_bind_eq_ok h
    exact ⟨Stage.attempt_eq_ok.mp hscratched, document, hloaded, locators,
      Stage.attempt_eq_ok.mp hlocated, Stage.attempt_eq_ok.mp hcompiled⟩
  · rintro ⟨hscratched, document, hloaded, locators, hlocated, hcompiled⟩
    rw [Answers.prepared, Stage.attempt_eq_ok.mpr hscratched, ok_bind, hloaded, ok_bind,
      Stage.attempt_eq_ok.mpr hlocated, ok_bind]
    exact Stage.attempt_eq_ok.mpr hcompiled

/-- An export comes to what the engine fails with, if it comes to the engine. -/
theorem Answers.outcome_of_rendered {config : Config} {job : Job} {answers : Answers}
    {compilation : Compilation} {fault : Fault}
    (hprepared : answers.prepared config job = .ok compilation)
    (hrendered : answers.rendered job = .error fault) :
    answers.outcome config job = .error ⟨.rendering, fault⟩ := by
  rw [Answers.outcome, Answers.published, Answers.filmed, hprepared]
  show (((Stage.rendering.attempt (answers.rendered job)) >>= _) >>= _) = _
  rw [hrendered]
  rfl

/-! ## Exports -/

/-- What becomes of a task that has got all the answers it asked for. -/
structure Processed (config : Config) (world : World) (task : Task) (answers : Answers) : Prop where
  /-- The task ends, and it is not cancelled. -/
  ended : (task.process config answers world).2.phase = .ended .finished
  /-- The row is completed exactly if every stage has a result, and otherwise the first
      stage that has none decides what is recorded. -/
  row : ∃ row, (task.process config answers world).1.store.find? task.job.id = some row ∧
    answers.Settles config task.job row
  /-- No later stage is come to. -/
  stages : ∀ trouble, answers.outcome config task.job = .error trouble →
    ∀ phase ∈ task.trail config answers.moments, phase.Within trouble.stage.position
  /-- The engine is started only if all assets are in place. -/
  started : ∀ arguments, .starting arguments ∈ task.trail config answers.moments →
    ReadsFiles config arguments ∧ ∃ document, answers.loaded config task.job = .ok document ∧
      ∀ item ∈ wanted document, answers.Delivered config task.job item.mediaId
  /-- The output is uploaded only if the engine has exited with zero. -/
  uploaded : .uploading ∈ task.trail config answers.moments →
    answers.launch.2 = none ∧ (answers.run task.job).exit = some 0
  /-- How reports of progress are received makes no difference. -/
  reports : ∀ engine,
    (engine.map fun answer => answer.2.event) = (answers.engine.map fun answer => answer.2.event) →
      (task.process config { answers with engine } world).1.store =
        (task.process config answers world).1.store

theorem Processed.row_of_error {config : Config} {world : World} {task : Task} {answers : Answers}
    {trouble : Trouble} (h : Processed config world task answers)
    (herror : answers.outcome config task.job = .error trouble) :
    ∃ row, (task.process config answers world).1.store.find? task.job.id = some row ∧
      row.status = .failed ∧ row.errorMessage = some (trouble.message task.job) := by
  simpa only [Answers.settles_iff_of_error herror] using h.row

namespace Task

variable {config : Config} {task : Task} {answers : Answers}

/-- The work on a task leaves the table with the outcome in it. -/
theorem endsWith_process (h : answers.Complete config task.job) (hphase : task.phase = .created)
    (world : World) : ∃ after, answers.recordedStore config task.job = .ok after ∧
      EndsWith after (task.process config answers world) := by
  unfold Answers.recordedStore process
  cases houtcome : answers.outcome config task.job with
  | ok url => exact pass_of_ok h hphase world houtcome
  | error trouble => exact pass_of_error h hphase world houtcome

theorem settles_process (h : answers.Complete config task.job) (hphase : task.phase = .created)
    (world : World) :
    ∃ row, (task.process config answers world).1.store.find? task.job.id = some row ∧
      answers.Settles config task.job row := by
  obtain ⟨after, hrecorded, hend⟩ := endsWith_process h hphase world
  rw [hend.store]
  unfold Answers.Settles
  unfold Answers.recordedStore at hrecorded
  cases houtcome : answers.outcome config task.job with
  | ok url =>
      rw [houtcome] at hrecorded
      obtain ⟨row, hrow⟩ := h.completionRow
      obtain ⟨text, hcell, rfl⟩ := Store.markCompleted_eq_ok hrecorded
      refine ⟨row.finished text, ?_, rfl, hcell⟩
      rw [Store.find?_update_self task.job.id (Job.finished text) (fun _ => rfl), hrow]
      rfl
  | error trouble =>
      rw [houtcome] at hrecorded
      obtain ⟨row, hrow⟩ := h.failureRow
      obtain ⟨text, hcell, rfl⟩ := Store.markFailed_eq_ok hrecorded
      obtain rfl := Cell.text_str hcell
      refine ⟨row.failed (some (trouble.message task.job)), ?_, rfl, rfl⟩
      rw [Store.find?_update_self task.job.id (Job.failed _) (fun _ => rfl), hrow]
      rfl

theorem store_process_of_events (h : answers.Complete config task.job)
    (hphase : task.phase = .created) (world : World) {engine : List (World × EngineAnswer)}
    (hevents : (engine.map fun answer => answer.2.event) =
      answers.engine.map fun answer => answer.2.event) :
    (task.process config { answers with engine } world).1.store =
      (task.process config answers world).1.store := by
  obtain ⟨after, hrecorded, hend⟩ := endsWith_process h hphase world
  obtain ⟨other, hother, hendOther⟩ := endsWith_process (h.of_events hevents) hphase world
  rw [Answers.recordedStore_of_events hevents, hrecorded] at hother
  rw [hend.store, hendOther.store, Except.ok.inj hother]

theorem delivered_of_starting (h : answers.Complete config task.job)
    (hphase : task.phase = .created) {arguments : List String}
    (hmem : .starting arguments ∈ task.trail config answers.moments) :
    ∃ document, answers.loaded config task.job = .ok document ∧
      ∀ item ∈ wanted document, answers.Delivered config task.job item.mediaId := by
  obtain ⟨compilation, hprepared⟩ := prepared_of_starting h hphase hmem
  obtain ⟨-, document, hloaded, locators, hlocated, -⟩ := Answers.prepared_eq_ok.mp hprepared
  exact ⟨document, hloaded, Answers.delivered_of_located (h.assets document hloaded) hlocated⟩

theorem readsFiles_of_starting (hphase : task.phase = .created) {arguments : List String}
    (hmem : .starting arguments ∈ task.trail config answers.moments) :
    ReadsFiles config arguments := by
  have hstart : task.phase.Prepared config := by
    rw [hphase]
    exact trivial
  exact forall_trail (fun _ event world h => prepared_step h event world) answers.moments hstart _
    hmem

/-- Without a cancellation, the work on a task ends as the first stage without a result
    says. -/
theorem process_settled (h : answers.Complete config task.job) (hphase : task.phase = .created)
    (world : World) : Processed config world task answers where
  ended := by
    obtain ⟨after, -, hend⟩ := endsWith_process h hphase world
    exact hend.phase
  row := settles_process h hphase world
  stages := fun _ herror => within_trail h hphase herror
  started := fun _ hmem =>
    ⟨readsFiles_of_starting hphase hmem, delivered_of_starting h hphase hmem⟩
  uploaded := fun hmem => by
    obtain ⟨_, hfilmed⟩ := filmed_of_uploading h hphase hmem
    exact Answers.exit_of_filmed h hfilmed
  reports := fun _ hevents => store_process_of_events h hphase world hevents

/-! ## One export -/

def sampleTask : Task :=
  { number := 0, job := Fleet.sampleRow }

/-- The answers for a timeline without elements.  The engine reports its progress once, and
    the report cannot be recorded. -/
def sampleAnswers : Answers :=
  let world : World := { store := ⟨[Fleet.sampleRow.taken]⟩ }
  { scratch := world
    read := (world, .instead
      (.str "\x7b\"project\": \x7b\"canvasSize\": \x7b\"width\": 640, \"height\": 360\x7d\x7d\x7d"))
    assets := []
    launch := (world, none)
    engine := [(world, .chunk ("time=00:00:01.00\r".toList.map fun c => c.toNat.toUInt8)),
      (world, .progressWritten (.raises (.unreachable "down") false)),
      (world, .endOfStream), (world, .exited 0)]
    upload := (world, .instead .null)
    sign := (world, .instead (.str "https://media.test/export.mp4"))
    completion := (world, .genuine)
    failure := (world, .genuine) }

theorem complete_sampleAnswers : sampleAnswers.Complete Fleet.sampleConfig sampleTask.job := by
  have hwanted : (sampleAnswers.loaded Fleet.sampleConfig sampleTask.job).toOption.map wanted =
      some [] := by
    decide +kernel
  have houtcome : (sampleAnswers.outcome Fleet.sampleConfig sampleTask.job).isOk = true := by
    decide +kernel
  have hstage : (sampleAnswers.run sampleTask.job).stage = .ended .finished := by
    decide +kernel
  refine ⟨fun document hdocument => ?_, fun _ => ⟨.finished, hstage⟩, nofun, ⟨_, rfl⟩, rfl,
    ⟨_, rfl⟩, fun trouble htrouble => ?_⟩
  · rw [hdocument] at hwanted
    have hnone : wanted document = [] := Option.some.inj hwanted
    rw [hnone]
    rfl
  · rw [htrouble] at houtcome
    cases houtcome

/-- A timeline as it is written: a film, and a logo that is shown before it. -/
def sampleSpot : Json :=
  .obj
    [("project", .obj [("canvasSize", .obj [("width", .int 640), ("height", .int 360)])]),
     ("tracks", .arr
       [.obj [("id", .str "t1"), ("elements", .arr [sampleMediaValue "e1" "film" 1])],
        .obj [("id", .str "t2"), ("elements", .arr [sampleMediaValue "e2" "logo" 0])]]),
     ("mediaItems", .obj
       [("logo", .obj [("type", .str "image"), ("url", .str "https://media.test/logo.png")]),
        ("film", .obj [("type", .str "video"), ("url", .str "https://media.test/film.mp4")])])]

def sampleMedia : List Wanted :=
  [⟨"film", "https://media.test/film.mp4"⟩, ⟨"logo", "https://media.test/logo.png"⟩]

/-- A world in which the directory for the assets of that job has been made. -/
def sampleRoom : World :=
  { store := ⟨[Fleet.sampleRow.taken]⟩
    files := ((Call.makeDirectories
      (assetDirectory Fleet.sampleConfig sampleTask.job.id)).run.run {}).2 }

/-- The logo comes before the film. -/
def sampleGathering : Gathering :=
  gathered (assetDirectory Fleet.sampleConfig sampleTask.job.id)
    [(sampleRoom, "logo", .ok ⟨"logo-1.png", [1]⟩), (sampleRoom, "film", .ok ⟨"film-2.mp4", [2]⟩)]
    (.start sampleMedia)

/-- The answers for that timeline in a text.  The film and the logo are fetched, and then the
    engine exits with one. -/
def sampleTrouble (text : String) : Answers :=
  { scratch := sampleRoom
    read := (sampleRoom, .instead (.str text))
    assets := [(sampleRoom, "logo", .ok ⟨"logo-1.png", [1]⟩),
      (sampleRoom, "film", .ok ⟨"film-2.mp4", [2]⟩)]
    launch := (sampleRoom, none)
    engine := [(sampleRoom, .chunk ("no such filter\n".toList.map fun c => c.toNat.toUInt8)),
      (sampleRoom, .endOfStream), (sampleRoom, .exited 1)]
    upload := (sampleRoom, .genuine)
    sign := (sampleRoom, .genuine)
    completion := (sampleRoom, .genuine)
    failure := (sampleRoom, .genuine) }

theorem located_sampleTrouble {document : Document} (text : String)
    (h : wanted document = sampleMedia) :
    (sampleTrouble text).located Fleet.sampleConfig sampleTask.job document =
      .ok sampleGathering.places := by
  have hmade : (sampleRoom.onFiles (Call.makeDirectories
      (assetDirectory Fleet.sampleConfig sampleTask.job.id))).1 = .ok () := by
    decide +kernel
  have hgathered : sampleGathering.outcome? = some (.ok sampleGathering.places) := by
    decide +kernel
  unfold Answers.located
  rw [h]
  show (sampleRoom.onFiles (Call.makeDirectories _)).1 >>=
    (fun _ => sampleGathering.outcome?.getD (.ok [])) = _
  rw [hmade, hgathered]
  rfl

/-- The text of that timeline is loaded, and with the film and the logo it compiles. -/
theorem exists_prepared_sampleTrouble : ∃ text document compilation,
    (sampleTrouble text).loaded Fleet.sampleConfig sampleTask.job = .ok document ∧
      wanted document = sampleMedia ∧
      (sampleTrouble text).prepared Fleet.sampleConfig sampleTask.job = .ok compilation := by
  have htests : (checkDocument .byModel sampleSpot).all (fun document =>
      document.stored.isOk && document.hasFiniteAmounts &&
        wanted document.reloaded = sampleMedia &&
        hasDelays (document.reloaded.withLocators sampleGathering.places)) = true := by
    decide +kernel
  have hregular : sampleSpot.Regular := by
    simp [sampleSpot, sampleMediaValue, Json.int, Json.Regular, Json.RegularItems,
      Json.RegularFields, regular_of_natAbs_lt]
  obtain ⟨document, hvalid, htest⟩ := Validation.Checked.all_eq_true.mp htests
  simp only [Bool.and_eq_true, decide_eq_true_eq] at htest
  obtain ⟨⟨⟨hsome, hfinite⟩, hwanted⟩, hdelays⟩ := htest
  obtain ⟨text, hstored⟩ := exists_of_isOk hsome
  obtain ⟨compilation, hcompile⟩ := exists_compile_of_hasDelays Fleet.sampleConfig.options hdelays
  have hscratched : (sampleRoom.onFiles (Call.makeDirectories
      (scratchDirectory Fleet.sampleConfig sampleTask.job.id))).1 = .ok () := by
    decide +kernel
  have hloaded : (sampleTrouble text).loaded Fleet.sampleConfig sampleTask.job =
      .ok document.reloaded :=
    Answers.loaded_of_stored hregular hvalid hstored hfinite rfl
  have hcompiled : compiled Fleet.sampleConfig document.reloaded sampleGathering.places =
      .ok compilation := by
    rw [compiled, hcompile]
    rfl
  exact ⟨text, document.reloaded, compilation, hloaded, hwanted, Answers.prepared_eq_ok.mpr
    ⟨hscratched, _, hloaded, _, located_sampleTrouble text hwanted, hcompiled⟩⟩

def sampleExit : Fault :=
  .failed (Engine.exitFailure 1 "no such filter".toList)

theorem stage_sampleTrouble (text : String) :
    ((sampleTrouble text).run sampleTask.job).stage = .ended (.failed sampleExit) := by
  have hstage : ((sampleTrouble "").run sampleTask.job).stage = .ended (.failed sampleExit) := by
    decide +kernel
  exact hstage

theorem complete_sampleTrouble {text : String} {document : Document}
    (hloaded : (sampleTrouble text).loaded Fleet.sampleConfig sampleTask.job = .ok document)
    (hwanted : wanted document = sampleMedia)
    (houtcome : (sampleTrouble text).outcome Fleet.sampleConfig sampleTask.job =
      .error ⟨.rendering, sampleExit⟩) :
    (sampleTrouble text).Complete Fleet.sampleConfig sampleTask.job where
  assets other hother := by
    rw [hloaded] at hother
    cases hother
    rw [hwanted]
    have hidle : sampleGathering.isRunning = false := by decide +kernel
    exact hidle
  engine _ := ⟨_, stage_sampleTrouble text⟩
  completion := nofun
  completionRow := ⟨_, rfl⟩
  failure := rfl
  failureRow := ⟨_, rfl⟩
  failureText trouble htrouble := by
    rw [houtcome] at htrouble
    cases htrouble
    exact exists_of_isOk (by decide +kernel)

/-- An export that succeeds, although its progress cannot be recorded, and one that fails after
    its assets have been fetched. -/
theorem process_settled_sampleAnswers :
    ((sampleTask.process Fleet.sampleConfig sampleAnswers {}).1.store.jobs.map Job.downloadUrl =
        [some "https://media.test/export.mp4"] ∧
      Processed Fleet.sampleConfig {} sampleTask sampleAnswers) ∧
    ∃ text row, Processed Fleet.sampleConfig {} sampleTask (sampleTrouble text) ∧
      (sampleTask.process Fleet.sampleConfig (sampleTrouble text) {}).1.store.find?
        sampleTask.job.id = some row ∧ row.status = .failed ∧
      row.errorMessage = some "ENGINE_FAILED: ffmpeg exited with code 1: no such filter" := by
  refine ⟨⟨by decide +kernel, process_settled complete_sampleAnswers rfl {}⟩, ?_⟩
  obtain ⟨text, document, compilation, hloaded, hwanted, hprepared⟩ := exists_prepared_sampleTrouble
  have hrendered : (sampleTrouble text).rendered sampleTask.job = .error sampleExit := by
    have hlaunch : (sampleTrouble text).launch.2 = none := rfl
    rw [Answers.rendered, hlaunch]
    dsimp only
    rw [runResult, stage_sampleTrouble]
  have houtcome := Answers.outcome_of_rendered hprepared hrendered
  have hprocessed := process_settled (complete_sampleTrouble hloaded hwanted houtcome) rfl {}
  obtain ⟨row, hrow, hstatus, herror⟩ := hprocessed.row_of_error houtcome
  have hmessage : Trouble.message sampleTask.job ⟨.rendering, sampleExit⟩ =
      "ENGINE_FAILED: ffmpeg exited with code 1: no such filter" := by
    decide +kernel
  rw [hmessage] at herror
  exact ⟨text, row, hprocessed, hrow, hstatus, herror⟩

end Task

end Montage.Worker
