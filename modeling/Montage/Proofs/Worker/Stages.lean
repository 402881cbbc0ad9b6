/-
  Montage.Proofs.Worker.Stages

  Every stage of an export leads its task to where its result says.  The timeline, the
  assets and the engine are the stages that have parts of their own.
-/
import Montage.Proofs.Worker.Passage
import Montage.Proofs.Worker.Work

namespace Montage.Worker

open Montage.Asset Montage.Compile Montage.File Montage.Jobs Montage.Timeline

/-! ## Messages -/

theorem errorMessage_eq (fault : Fault) : errorMessage fault = ownMessage fault := by
  cases fault <;> rfl

/-- A failure speaks with the code of its kind. -/
theorem errorMessage_of {kind : FailureKind} {message : String} (h : message ≠ "") :
    errorMessage (.failed (.of kind (some message))) = kind.code ++ ": " ++ message := by
  have hgiven : Failure.given (some message) = some message := by
    simp [Failure.given, h]
  rw [errorMessage, Failure.text, Failure.of, hgiven]
  rfl

variable {config : Config} {job : Job}

theorem errorMessage_unreadable (fault : Fault) :
    errorMessage (unreadable job fault) = Trouble.message job ⟨.reading, fault⟩ := by
  rw [unreadable, errorMessage_of (by simp)]
  rfl

theorem errorMessage_unpublished (fault : Fault) :
    errorMessage (unpublished job fault) = Trouble.message job ⟨.uploading, fault⟩ := by
  rw [unpublished, errorMessage_of (by simp)]
  rfl

/-! ## The timeline -/

theorem loadDocument_of_unparsed {text : String} {fault : Fault}
    (h : parsedText text = .error fault) :
    ∃ raised, loadDocument job.inputKey text = .error raised ∧
      errorMessage raised = Trouble.message job ⟨.parsing, fault⟩ := by
  unfold parsedText at h
  unfold loadDocument
  cases hread : Json.read text with
  | ok value =>
      rw [hread] at h
      cases h
  | error error =>
      rw [hread] at h
      obtain ⟨kind, place⟩ := error
      cases kind with
      | tooDeep container =>
          cases h
          exact ⟨_, rfl, rfl⟩
      | _ =>
          cases h
          refine ⟨_, rfl, ?_⟩
          rw [errorMessage_of (by simp)]
          rfl

theorem loadDocument_of_parsed {text : String} {value : Json} (h : parsedText text = .ok value) :
    loadDocument job.inputKey text = (validated value).mapError fun fault =>
      .failed (.of .timelineParse (some (job.inputKey ++ " is not a timeline document: " ++
        fault.message))) := by
  have hread : Json.read text = .ok value := by
    unfold parsedText at h
    split at h
    · cases h
      assumption
    · cases h
    · cases h
  unfold loadDocument validated
  rw [hread]
  dsimp only
  cases checkDocument .byModel value <;> rfl

/-- A stored text that is no timeline is a trouble of parsing or of validating. -/
theorem loadDocument_cases (job : Job) (text : String) :
    (∃ document, loadDocument job.inputKey text = .ok document ∧
      documentIn (.str text) = .ok document) ∨
    ∃ fault trouble, loadDocument job.inputKey text = .error fault ∧
      documentIn (.str text) = .error trouble ∧ errorMessage fault = trouble.message job ∧
      2 ≤ trouble.stage.position ∧ trouble.stage.position < 4 := by
  have hdocument : documentIn (.str text) =
      Stage.parsing.attempt (parsedText text) >>= fun value =>
        Stage.validating.attempt (validated value) := rfl
  rw [hdocument]
  cases hparsed : parsedText text with
  | error fault =>
      obtain ⟨raised, hload, hmessage⟩ := loadDocument_of_unparsed hparsed
      exact .inr ⟨raised, ⟨.parsing, fault⟩, hload, rfl, hmessage, Nat.le_refl 2,
        (by decide : 2 < 4)⟩
  | ok value =>
      rw [loadDocument_of_parsed hparsed]
      cases hvalid : validated value with
      | ok document =>
          refine .inl ⟨document, rfl, ?_⟩
          show Stage.validating.attempt (validated value) = _
          rw [hvalid]
          rfl
      | error fault =>
          refine .inr ⟨_, ⟨.validating, fault⟩, rfl, ?_, ?_, Nat.le_succ 2, Nat.lt_succ_self 3⟩
          · show Stage.validating.attempt (validated value) = _
            rw [hvalid]
            rfl
          · rw [errorMessage_of (by simp)]
            rfl

/-- What was read is a text for `loadDocument`, or there is a trouble of reading or of
    parsing. -/
theorem readReply_cases (config : Config) (job : Job) (answers : Answers) :
    (∃ text, (readReply config job answers.read.2 answers.read.1).1 = .ok text ∧
      answers.loaded config job = documentIn (.str text)) ∨
    ∃ fault trouble, (readReply config job answers.read.2 answers.read.1).1 = .error fault ∧
      answers.loaded config job = .error trouble ∧ errorMessage fault = trouble.message job ∧
      1 ≤ trouble.stage.position ∧ trouble.stage.position < 4 := by
  rw [Answers.loaded, Answers.fetchedText]
  rcases answers.read with ⟨world, reply⟩
  cases reply with
  | genuine =>
      unfold readReply Reply.value
      dsimp only
      rcases world.onFiles (config.input.readText job.inputKey) with ⟨result, after⟩
      cases result with
      | ok text => exact .inl ⟨text, rfl, rfl⟩
      | error fault =>
          exact .inr ⟨unreadable job fault, ⟨.reading, fault⟩, rfl, rfl,
            errorMessage_unreadable fault, Nat.le_refl 1, (by decide : 1 < 4)⟩
  | «instead» value =>
      cases value with
      | str text => exact .inl ⟨text, rfl, rfl⟩
      | _ =>
          exact .inr ⟨_, ⟨.parsing, .wrongType _⟩, rfl, rfl, rfl, Nat.le_succ 1,
            (by decide : 2 < 4)⟩
  | raises fault committed =>
      exact .inr ⟨unreadable job fault, ⟨.reading, fault⟩, rfl, rfl, errorMessage_unreadable fault,
        Nat.le_refl 1, (by decide : 1 < 4)⟩

namespace Task

variable {task : Task}

/-- A task that goes on to record a fault, which is the trouble of a stage. -/
theorem leads_fail {α : Type} {fault : Fault} {trouble : Trouble} {first last : Nat}
    {moments : List Moment} (hmessage : errorMessage fault = trouble.message task.job)
    (hfirst : first ≤ trouble.stage.position) (hlast : trouble.stage.position < last)
    (hforward : ∀ moment ∈ moments, moment.2.IsForward) (arrived : α → Phase → Prop) :
    (task.fail fault).Leads config moments (.error trouble) first last arrived :=
  leads_failing (congrArg (Phase.failing · false) hmessage) hfirst hlast hforward arrived

/-! ## Assets -/

theorem isForward_assetMoments (assets : List (World × String × Except Fault Received)) :
    ∀ moment ∈ assetMoments assets, moment.2.IsForward := by
  intro moment hmoment
  obtain ⟨asset, -, rfl⟩ := List.mem_map.mp hmoment
  exact trivial

/-- A task that has compiled its timeline lets assets alone. -/
theorem leads_compileWith (document : Document) (locators : Locators)
    (assets : List (World × String × Except Fault Received)) :
    (task.compileWith config document locators).Leads config (assetMoments assets)
      (Stage.compiling.attempt (compiled config document locators)) 5 6
      fun compilation phase => phase = .starting compilation.arguments := by
  unfold compileWith compiled
  cases compile config.options (document.withLocators locators) with
  | ok compilation =>
      refine leads_arrived rfl (Phase.within_of .rendering rfl) fun moment hmoment => ?_
      obtain ⟨asset, -, rfl⟩ := List.mem_map.mp hmoment
      rfl
  | error error =>
      have hmessage : errorMessage (.arithmetic error) =
          Trouble.message task.job ⟨.compiling, .arithmetic error⟩ := rfl
      exact leads_fail hmessage (Nat.le_refl 5) (Nat.lt_succ_self 5)
        (isForward_assetMoments assets) _

theorem step_asset {document : Document} {gathering : Gathering}
    (hphase : task.phase = .fetching document gathering) (mediaId : String)
    (received : Except Fault Received) (world : World) :
    (task.step config (.asset mediaId received) world).2 =
      if gathering.awaits mediaId then
        task.useAsset config document (gathering.finish mediaId
          (world.onFiles (deliver (assetDirectory config task.job.id) received)).1)
      else task := by
  unfold step
  rw [hphase]
  dsimp only
  split <;> rfl

/-- Once nothing is awaited any more, answers change nothing. -/
theorem gathered_of_idle {gathering : Gathering} (hidle : gathering.isRunning = false)
    (directory : Path) (assets : List (World × String × Except Fault Received)) :
    gathered directory assets gathering = gathering := by
  induction assets with
  | nil => rfl
  | cons asset rest ih =>
      obtain ⟨world, mediaId, received⟩ := asset
      have hawaits : ¬ gathering.awaits mediaId := fun hmem =>
        Gathering.isRunning_eq_false.mp hidle mediaId (Gathering.awaits_iff.mp hmem)
      rw [gathered, if_neg hawaits]
      exact ih

/-- The result of the assets of a document and of its compilation. -/
def assembled (config : Config) (document : Document) (gathering : Gathering) :
    Except Trouble Compilation := do
  let locators ← Stage.fetching.attempt (gathering.outcome?.getD (.ok []))
  Stage.compiling.attempt (compiled config document locators)

/-- A task whose assets have all come, or one of whose assets has failed. -/
theorem leads_useAsset {document : Document} {gathering : Gathering}
    (hidle : gathering.isRunning = false)
    (assets : List (World × String × Except Fault Received)) :
    (task.useAsset config document gathering).Leads config (assetMoments assets)
      (assembled config document gathering) 4 6
      fun compilation phase => phase = .starting compilation.arguments := by
  obtain ⟨outcome, houtcome⟩ := Gathering.exists_outcome hidle
  unfold useAsset assembled
  rw [houtcome]
  cases outcome with
  | ok locators =>
      exact (leads_compileWith document locators assets).mono (Nat.le_succ 4)
        (Nat.le_refl 6)
  | error fault =>
      have hmessage : errorMessage fault = Trouble.message task.job ⟨.fetching, fault⟩ :=
        errorMessage_eq fault
      exact leads_fail hmessage (Nat.le_refl 4) (by decide : 4 < 6)
        (isForward_assetMoments assets) _

/-- Assets that come one after the other, and the compilation after the last one. -/
theorem leads_gathering {document : Document} {gathering : Gathering}
    (assets : List (World × String × Except Fault Received))
    (hphase : task.phase = .fetching document gathering) (hrunning : gathering.isRunning = true)
    (hended : (gathered (assetDirectory config task.job.id) assets gathering).isRunning = false) :
    task.Leads config (assetMoments assets)
      (assembled config document
        (gathered (assetDirectory config task.job.id) assets gathering)) 4 6
      fun compilation phase => phase = .starting compilation.arguments := by
  induction assets generalizing task gathering with
  | nil =>
      rw [gathered, hrunning] at hended
      cases hended
  | cons asset rest ih =>
      obtain ⟨world, mediaId, received⟩ := asset
      have hwithin : task.phase.Within 4 := by
        rw [hphase]
        exact Phase.within_of .fetching rfl
      have hstep : (task.step config (.asset mediaId received) world).2 = _ :=
        step_asset hphase mediaId received world
      rw [gathered] at hended ⊢
      refine Leads.cons ?_ hwithin (by decide)
      show (task.step config (.asset mediaId received) world).2.Leads _ _ _ _ _ _
      rw [hstep]
      split
      next hawaits =>
        rw [if_pos hawaits] at hended
        generalize gathering.finish mediaId _ = next at hended ⊢
        cases hnext : next.isRunning with
        | true =>
            have hmoved : task.useAsset config document next =
                task.moveTo (.fetching document next) := by
              rw [useAsset, Gathering.outcome?, hnext]
              rfl
            rw [hmoved]
            exact ih rfl hnext hended
        | false =>
            rw [gathered_of_idle hnext]
            exact leads_useAsset hnext rest
      next hawaits =>
        rw [if_neg hawaits] at hended
        exact ih hphase hrunning hended

/-! ## From the timeline to the engine -/

theorem useText_of_error {text : String} {fault : Fault}
    (h : loadDocument task.job.inputKey text = .error fault) (world : World) :
    task.useText config text world = (world, task.fail fault) := by
  rw [useText, h]

theorem step_read (hphase : task.phase = .reading) (reply : Reply) (world : World) :
    task.step config (.read reply) world =
      match readReply config task.job reply world with
      | (.ok text, world) => task.useText config text world
      | (.error fault, world) => (world, task.fail fault) := by
  rcases hread : readReply config task.job reply world with ⟨result, after⟩
  unfold step
  cases result <;> simp only [hphase, hread]

theorem leads_useText {answers : Answers} {text : String} {document : Document} {world : World}
    (hload : loadDocument task.job.inputKey text = .ok document)
    (hworld : world = (readReply config task.job answers.read.2 answers.read.1).2)
    (hended : (gathered (assetDirectory config task.job.id) answers.assets
      (.start (wanted document))).isRunning = false) :
    (task.useText config text world).2.Leads config (assetMoments answers.assets)
      (do
        let locators ← Stage.fetching.attempt (answers.located config task.job document)
        Stage.compiling.attempt (compiled config document locators)) 4 6
      fun compilation phase => phase = .starting compilation.arguments := by
  unfold useText Answers.located
  rw [hload]
  dsimp only
  rw [← hworld]
  cases hitems : wanted document with
  | nil =>
      exact (leads_compileWith document [] answers.assets).mono (Nat.le_succ 4)
        (Nat.le_refl 6)
  | cons item rest =>
      rw [hitems] at hended
      dsimp only
      rcases world.onFiles (Call.makeDirectories (assetDirectory config task.job.id)) with
        ⟨made, after⟩
      cases made with
      | error fault =>
          have hmessage : errorMessage fault = Trouble.message task.job ⟨.fetching, fault⟩ :=
            errorMessage_eq fault
          exact leads_fail hmessage (Nat.le_refl 4) (by decide : 4 < 6)
            (isForward_assetMoments answers.assets) _
      | ok _ =>
          have hrunning : (Gathering.start (item :: rest)).isRunning = true := by
            simp [Gathering.start, Gathering.isRunning]
          have hmoved : (task.moveTo (.fetching document (.start (item :: rest)))).phase =
              .fetching document (.start (item :: rest)) := rfl
          exact leads_gathering answers.assets hmoved hrunning hended

/-- From the read of the timeline to the start of the engine. -/
theorem leads_reading {answers : Answers} (hphase : task.phase = .reading)
    (hended : ∀ document, answers.loaded config task.job = .ok document →
      (gathered (assetDirectory config task.job.id) answers.assets
        (.start (wanted document))).isRunning = false) :
    task.Leads config ((answers.read.1, .read answers.read.2) :: assetMoments answers.assets)
      (do
        let document ← answers.loaded config task.job
        let locators ← Stage.fetching.attempt (answers.located config task.job document)
        Stage.compiling.attempt (compiled config document locators)) 1 6
      fun compilation phase => phase = .starting compilation.arguments := by
  have hwithin : task.phase.Within 1 := by
    rw [hphase]
    exact Phase.within_of .reading rfl
  refine Leads.cons ?_ hwithin (by decide)
  show (task.step config (.read answers.read.2) answers.read.1).2.Leads _ _ _ _ _ _
  rw [step_read hphase]
  have hcases := readReply_cases config task.job answers
  rcases hread : readReply config task.job answers.read.2 answers.read.1 with ⟨result, world⟩
  rw [hread] at hcases
  obtain ⟨text, rfl, hloaded⟩ | ⟨fault, trouble, rfl, hloaded, hmessage, hlow, hhigh⟩ := hcases
  · rcases loadDocument_cases task.job text with
      ⟨document, hload, hdocument⟩ | ⟨fault, trouble, hload, hdocument, hmessage, hlow, hhigh⟩
    · rw [hdocument] at hloaded
      dsimp only
      rw [hloaded]
      have hworld := congrArg Prod.snd hread
      have hrest := leads_useText hload hworld.symm (hended document hloaded)
      exact hrest.mono (by decide) (Nat.le_refl 6)
    · rw [hdocument] at hloaded
      dsimp only
      rw [useText_of_error hload, hloaded]
      exact leads_fail hmessage (Nat.le_of_succ_le hlow) (Nat.lt_trans hhigh (by decide))
        (isForward_assetMoments answers.assets) _
  · rw [hloaded]
    exact leads_fail hmessage hlow (Nat.lt_trans hhigh (by decide))
      (isForward_assetMoments answers.assets) _

theorem leads_scratch {answers : Answers} (hphase : task.phase = .created) :
    task.Leads config [(answers.scratch, .begin)]
      (Stage.scratch.attempt (answers.scratched config task.job)) 0 1
      fun _ phase => phase = .reading := by
  have hwithin : task.phase.Within 0 := by
    rw [hphase]
    exact Phase.within_of .scratch rfl
  have hstep : (task.step config .begin answers.scratch).2 =
      match answers.scratched config task.job with
      | .ok () => task.moveTo .reading
      | .error fault => task.fail fault := by
    unfold step Answers.scratched
    rw [hphase]
    dsimp only
    rcases answers.scratch.onFiles (Call.makeDirectories (scratchDirectory config task.job.id)) with
      ⟨made, after⟩
    cases made <;> rfl
  refine leads_stage hwithin (fun _ hok => ?_) fun fault herror => ?_
  · show (task.step config .begin answers.scratch).2.phase = .reading
    rw [hstep, hok]
    rfl
  · show (task.step config .begin answers.scratch).2.phase = _
    rw [hstep, herror]
    exact congrArg (Phase.failing · false) (errorMessage_eq fault)

/-! ## The engine -/

theorem isForward_engineMoments (engine : List (World × EngineAnswer)) :
    ∀ moment ∈ engineMoments engine, moment.2.IsForward := by
  intro moment hmoment
  obtain ⟨⟨world, answer⟩, -, rfl⟩ := List.mem_map.mp hmoment
  cases answer <;> exact trivial

/-- An answer moves the run, and the task with it.  How a report was received does not
    matter. -/
theorem step_engine {run : Engine.Run} (hphase : task.phase = .rendering run)
    (hrunning : ∀ verdict, run.stage ≠ .ended verdict) (answer : EngineAnswer) (world : World) :
    (task.step config answer.taskEvent world).2.phase =
      (task.useRun (run.step answer.event)).phase := by
  unfold step
  rw [hphase]
  cases answer with
  | progressWritten reply =>
      dsimp only [EngineAnswer.taskEvent]
      split
      next => rfl
      next hother =>
        -- nothing is reported, so the run stays where it is
        show task.phase = (task.useRun (run.step .reported)).phase
        rw [Engine.Run.step_reported hother, useRun]
        split
        next hstage => exact absurd hstage (hrunning _)
        next hstage => exact absurd hstage (hrunning _)
        next hstage => exact absurd hstage (hrunning _)
        next => exact hphase
  | _ => rfl

theorem useRun_of_running {run : Engine.Run} (hrunning : ∀ verdict, run.stage ≠ .ended verdict) :
    task.useRun run = task.moveTo (.rendering run) := by
  unfold useRun
  split
  next hstage => exact absurd hstage (hrunning _)
  next hstage => exact absurd hstage (hrunning _)
  next hstage => exact absurd hstage (hrunning _)
  next => rfl

/-- The end of a run stays what it is. -/
theorem watched_of_ended {run : Engine.Run} {verdict : Engine.Verdict}
    (h : run.stage = .ended verdict) (engine : List (World × EngineAnswer)) :
    (watched engine run).stage = .ended verdict := by
  induction engine generalizing run with
  | nil => exact h
  | cons answer rest ih => exact ih (Engine.Run.stage_step_of_ended h answer.2.event)

theorem event_ne_cancelled (answer : EngineAnswer) : answer.event ≠ .cancelled := by
  cases answer <;> nofun

theorem orderly_watched {run : Engine.Run} (h : run.stage.Orderly run.exit)
    (engine : List (World × EngineAnswer)) :
    (watched engine run).stage.Orderly (watched engine run).exit := by
  induction engine generalizing run with
  | nil => exact h
  | cons answer rest ih => exact ih (Engine.Run.orderly_step h (event_ne_cancelled answer.2))

/-- A task whose run of the engine has just ended. -/
theorem leads_ended {run : Engine.Run} {verdict : Engine.Verdict}
    (hstage : run.stage = .ended verdict) (horderly : run.stage.Orderly run.exit)
    (hphase : task.phase = (task.useRun run).phase) (engine : List (World × EngineAnswer)) :
    task.Leads config (engineMoments engine)
      (Stage.rendering.attempt (runResult (watched engine run))) 6 7
      fun _ phase => phase = .uploading := by
  rw [runResult, watched_of_ended hstage]
  rw [useRun, hstage] at hphase
  rw [hstage] at horderly
  cases verdict with
  | finished =>
      have hwithin : task.phase.Within 7 := by
        rw [hphase]
        exact Phase.within_of .uploading rfl
      refine leads_arrived hphase hwithin fun moment hmoment => ?_
      obtain ⟨⟨world, answer⟩, -, rfl⟩ := List.mem_map.mp hmoment
      unfold step
      rw [hphase]
      cases answer <;> rfl
  | failed fault =>
      have hfailing : task.phase = .failing (Trouble.message task.job ⟨.rendering, fault⟩) false :=
        hphase.trans (congrArg (Phase.failing · false) (errorMessage_eq fault))
      exact leads_failing hfailing (Nat.le_refl 6) (Nat.lt_succ_self 6)
        (isForward_engineMoments engine) _
  | cancelled => exact horderly.elim

/-- A run of the engine up to its end. -/
theorem leads_engine {run : Engine.Run} (engine : List (World × EngineAnswer))
    (hphase : task.phase = .rendering run) (hrunning : ∀ verdict, run.stage ≠ .ended verdict)
    (horderly : run.stage.Orderly run.exit)
    (hended : ∃ verdict, (watched engine run).stage = .ended verdict) :
    task.Leads config (engineMoments engine)
      (Stage.rendering.attempt (runResult (watched engine run))) 6 7
      fun _ phase => phase = .uploading := by
  induction engine generalizing task run with
  | nil =>
      obtain ⟨verdict, hstage⟩ := hended
      exact absurd hstage (hrunning verdict)
  | cons entry rest ih =>
      obtain ⟨world, answer⟩ := entry
      have hwithin : task.phase.Within 6 := by
        rw [hphase]
        exact Phase.within_of .rendering rfl
      have hstep : (task.step config answer.taskEvent world).2.phase = _ :=
        step_engine hphase hrunning answer world
      have hnext := Engine.Run.orderly_step horderly (event_ne_cancelled answer)
      refine Leads.cons ?_ hwithin (Nat.le_succ 6)
      by_cases hend : ∃ verdict, (run.step answer.event).stage = .ended verdict
      · obtain ⟨verdict, hstage⟩ := hend
        have hmoved : (task.step config answer.taskEvent world).2.phase =
            ((task.step config answer.taskEvent world).2.useRun (run.step answer.event)).phase := by
          rw [hstep, useRun, useRun, hstage]
          cases verdict <;> rfl
        exact leads_ended hstage hnext hmoved rest
      · have hstill : ∀ verdict, (run.step answer.event).stage ≠ .ended verdict :=
          fun verdict hstage => hend ⟨verdict, hstage⟩
        rw [useRun_of_running hstill] at hstep
        exact ih hstep hstill hnext hended

/-- From the start of the engine to its end. -/
theorem leads_rendering {answers : Answers} {arguments : List String}
    (hphase : task.phase = .starting arguments)
    (hended : answers.launch.2 = none → ∃ verdict, (answers.run task.job).stage = .ended verdict) :
    task.Leads config
      ((answers.launch.1, .launched answers.launch.2) :: engineMoments answers.engine)
      (Stage.rendering.attempt (answers.rendered task.job)) 6 7
      fun _ phase => phase = .uploading := by
  have hwithin : task.phase.Within 6 := by
    rw [hphase]
    exact Phase.within_of .rendering rfl
  refine Leads.cons ?_ hwithin (Nat.le_succ 6)
  rw [Answers.rendered]
  rcases hlaunch : answers.launch with ⟨world, _ | fault⟩
  · rw [hlaunch] at hended
    have hstep : (task.step config (.launched none) world).2 =
        task.moveTo (.rendering (.start true (.real task.job.duration))) := by
      unfold step
      rw [hphase]
    have hrunning : ∀ verdict,
        (Engine.Run.start true (.real task.job.duration)).stage ≠ .ended verdict := by
      intro verdict hstage
      cases hstage
    show (task.step config (.launched none) world).2.Leads _ _ _ _ _ _
    rw [hstep]
    exact leads_engine answers.engine rfl hrunning trivial (hended rfl)
  · have hstep : (task.step config (.launched (some fault)) world).2 =
        task.fail (Engine.startFault fault) := by
      unfold step
      rw [hphase]
    have hmessage : errorMessage (Engine.startFault fault) =
        Trouble.message task.job ⟨.rendering, Engine.startFault fault⟩ := errorMessage_eq _
    show (task.step config (.launched (some fault)) world).2.Leads _ _ _ _ _ _
    rw [hstep]
    exact leads_fail hmessage (Nat.le_refl 6) (Nat.lt_succ_self 6)
      (isForward_engineMoments answers.engine) _

/-! ## Publishing -/

theorem step_uploaded (hphase : task.phase = .uploading) (reply : Reply) (world : World) :
    (task.step config (.uploaded reply) world).2 =
      match (uploadReply config task.job reply world).1 with
      | .ok () => task.moveTo .signing
      | .error fault => task.fail fault := by
  unfold step
  rw [hphase]
  dsimp only
  rcases uploadReply config task.job reply world with ⟨result, after⟩
  cases result <;> rfl

theorem uploadReply_fst (reply : Reply) (world : World) :
    (uploadReply config job reply world).1 =
      (reply.success (world.onFiles
        (config.output.upload (outputPath config job.id) job.outputKey)).1).mapError
          (unpublished job) := by
  unfold uploadReply Reply.success
  cases reply with
  | genuine => dsimp only
  | _ => rfl

theorem leads_upload {answers : Answers} (hphase : task.phase = .uploading) :
    task.Leads config [(answers.upload.1, .uploaded answers.upload.2)]
      (Stage.uploading.attempt (answers.uploaded config task.job)) 7 8
      fun _ phase => phase = .signing := by
  have hwithin : task.phase.Within 7 := by
    rw [hphase]
    exact Phase.within_of .uploading rfl
  have hstep : (task.step config (.uploaded answers.upload.2) answers.upload.1).2 = _ :=
    step_uploaded hphase answers.upload.2 answers.upload.1
  rw [uploadReply_fst, ← Answers.uploaded] at hstep
  refine leads_stage hwithin (fun _ hok => ?_) fun fault herror => ?_
  · show (task.step config (.uploaded answers.upload.2) answers.upload.1).2.phase = _
    rw [hstep, hok]
    rfl
  · show (task.step config (.uploaded answers.upload.2) answers.upload.1).2.phase = _
    rw [hstep, herror]
    exact congrArg (Phase.failing · false) (errorMessage_unpublished fault)

theorem step_signed (hphase : task.phase = .signing) (reply : Reply) (world : World) :
    (task.step config (.signed reply) world).2 =
      match (signReply config task.job reply world).1 with
      | .ok url => task.moveTo (.completing url)
      | .error fault => task.fail fault := by
  unfold step
  rw [hphase]
  dsimp only
  rcases signReply config task.job reply world with ⟨result, after⟩
  cases result <;> rfl

theorem signReply_fst (reply : Reply) (world : World) :
    (signReply config job reply world).1 =
      (reply.value ((world.onFiles (config.output.downloadUrl job.outputKey)).1.map .str)).mapError
        (unpublished job) := by
  unfold signReply Reply.value
  cases reply with
  | genuine =>
      dsimp only
      rcases world.onFiles (config.output.downloadUrl job.outputKey) with ⟨result, after⟩
      cases result <;> rfl
  | _ => rfl

theorem leads_sign {answers : Answers} (hphase : task.phase = .signing) :
    task.Leads config [(answers.sign.1, .signed answers.sign.2)]
      (Stage.signing.attempt (answers.signed config task.job)) 8 9
      fun url phase => phase = .completing url := by
  have hwithin : task.phase.Within 8 := by
    rw [hphase]
    exact Phase.within_of .signing rfl
  have hstep : (task.step config (.signed answers.sign.2) answers.sign.1).2 = _ :=
    step_signed hphase answers.sign.2 answers.sign.1
  rw [signReply_fst, ← Answers.signed] at hstep
  refine leads_stage hwithin (fun url hok => ?_) fun fault herror => ?_
  · show (task.step config (.signed answers.sign.2) answers.sign.1).2.phase = _
    rw [hstep, hok]
    rfl
  · show (task.step config (.signed answers.sign.2) answers.sign.1).2.phase = _
    rw [hstep, herror]
    exact congrArg (Phase.failing · false) (errorMessage_unpublished fault)

end Task

end Montage.Worker
