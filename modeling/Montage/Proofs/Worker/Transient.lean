/-
  Montage.Proofs.Worker.Transient

  Exports of timelines that have passed the gate.  Such an export fails as transient only
  if a medium that its timeline uses has a url in disguise: one that is for a browser once
  it is cleaned, and not as it stands.
-/
import Montage.Proofs.Asset.Scheme
import Montage.Proofs.Timeline.Reloaded
import Montage.Proofs.Web.Refusals
import Montage.Proofs.Worker.Processing
import Montage.Proofs.Worker.Submitting

namespace Montage.Worker

open Montage.Api Montage.Asset Montage.File Montage.Jobs Montage.Timeline Montage.Validation

/-! ## Messages -/

/-- Whether a row says that its job has failed with the code of a kind. -/
def FailsWith (kind : FailureKind) (row : Job) : Prop :=
  row.status = .failed ∧ ∃ text, row.errorMessage = some (kind.code ++ ": " ++ text)

/-- No other kind of failure is recorded as a transient one. -/
theorem message_ne_transient {kind : FailureKind} (hkind : kind ≠ .transientAsset)
    (text more : String) :
    kind.code ++ ": " ++ text ≠ FailureKind.transientAsset.code ++ ": " ++ more := by
  intro heq
  have hfirst := congrArg (fun message => message.toList.head?) heq
  cases kind with
  | transientAsset => exact hkind rfl
  | _ => simp [FailureKind.code] at hfirst

theorem ownMessage_eq (fault : Fault) : ownMessage fault = fault.code ++ ": " ++ fault.message := by
  cases fault <;> rfl

variable {config : Config} {job : Job} {answers : Answers}

/-- Whether a trouble is recorded with another code than that of a transient failure. -/
def Trouble.IsLasting (job : Job) (trouble : Trouble) : Prop :=
  ∃ kind text, kind ≠ .transientAsset ∧ trouble.message job = FailureKind.code kind ++ ": " ++ text

theorem Trouble.isLasting_of_fault {stage : Stage} {fault : Fault} (h : fault.IsLasting) :
    Trouble.IsLasting job ⟨stage, fault⟩ := by
  have hown : ∃ kind text, kind ≠ .transientAsset ∧
      ownMessage fault = FailureKind.code kind ++ ": " ++ text := by
    obtain ⟨kind, hkind, hcode⟩ := h
    exact ⟨kind, fault.message, hkind, by rw [ownMessage_eq, hcode]⟩
  cases stage with
  | reading => exact ⟨.inputFetch, _, nofun, rfl⟩
  | validating => exact ⟨.timelineParse, _, nofun, rfl⟩
  | uploading => exact ⟨.upload, _, nofun, rfl⟩
  | signing => exact ⟨.upload, _, nofun, rfl⟩
  | parsing =>
      cases fault with
      | malformed problem => exact ⟨.inputFetch, _, nofun, rfl⟩
      | _ => exact hown
  | _ => exact hown

theorem Stage.attempt_eq_error {α : Type} {stage : Stage} {result : Except Fault α}
    {trouble : Trouble} :
    stage.attempt result = .error trouble ↔ ∃ fault, result = .error fault ∧
      trouble = ⟨stage, fault⟩ := by
  cases result with
  | ok value => exact ⟨nofun, nofun⟩
  | error fault =>
      constructor
      · intro h
        cases h
        exact ⟨fault, rfl, rfl⟩
      · rintro ⟨_, hfault, rfl⟩
        cases hfault
        rfl

/-! ## Stages without assets -/

theorem isForeign_of_parsed {value : Json} {fault : Fault} (h : parsed value = .error fault) :
    fault.IsForeign := by
  cases value with
  | str text =>
      unfold parsed parsedText at h
      dsimp only at h
      split at h <;> cases h <;> nofun
  | _ =>
      cases h
      nofun

theorem isLasting_of_documentIn {value : Json} {trouble : Trouble}
    (h : documentIn value = .error trouble) : trouble.IsLasting job := by
  rcases error_of_bind_eq_error h with hparse | ⟨parsed, -, hvalidate⟩
  · obtain ⟨fault, hfault, rfl⟩ := Stage.attempt_eq_error.mp hparse
    exact Trouble.isLasting_of_fault (isForeign_of_parsed hfault).isLasting
  · obtain ⟨fault, -, rfl⟩ := Stage.attempt_eq_error.mp hvalidate
    exact ⟨.timelineParse, _, nofun, rfl⟩

theorem isLasting_startFault {fault : Fault} (h : fault.IsForeign) :
    (Engine.startFault fault).IsLasting := by
  unfold Engine.startFault
  split
  · exact ⟨.engine, nofun, rfl⟩
  · exact h.isLasting

/-- What the engine prints and how it ends is never taken for a transient url. -/
theorem tells_watched {run : Engine.Run} (h : run.stage.Tells Fault.IsLasting)
    (engine : List (World × EngineAnswer)) :
    (watched engine run).stage.Tells Fault.IsLasting := by
  induction engine generalizing run with
  | nil => exact h
  | cons answer rest ih =>
      refine ih (Engine.Run.tells_step Engine.owns_isLasting h _ ?_)
      obtain ⟨world, answer⟩ := answer
      cases answer <;> exact trivial

theorem World.isForeign_of_makeDirectories {path : Path} {world : World} {fault : Fault}
    (h : (world.onFiles (Call.makeDirectories path)).1 = .error fault) : fault.IsForeign :=
  Call.raises_makeDirectories path world.files fault h

namespace Answers

/-- What comes from outside while the timeline is exported: assets are what fetching the
    media of the timeline comes to, and nobody else raises the failure of a job. -/
structure IsGenuine (config : Config) (job : Job) (answers : Answers) : Prop where
  assets : ∀ document, answers.loaded config job = .ok document → ∀ asset ∈ answers.assets,
    ∃ item ∈ wanted document, item.mediaId = asset.2.1 ∧ item.Yields asset.2.2
  launch : ∀ fault, answers.launch.2 = some fault → fault.IsForeign
  completion : ∀ fault committed, answers.completion.2 = .raises fault committed → fault.IsForeign

theorem isLasting_of_loaded {trouble : Trouble} (h : answers.loaded config job = .error trouble) :
    trouble.IsLasting job := by
  rcases error_of_bind_eq_error h with hread | ⟨value, -, hdocument⟩
  · obtain ⟨fault, -, rfl⟩ := Stage.attempt_eq_error.mp hread
    exact ⟨.inputFetch, _, nofun, rfl⟩
  · exact isLasting_of_documentIn hdocument

theorem isLasting_of_rendered (h : answers.IsGenuine config job) {fault : Fault}
    (herror : answers.rendered job = .error fault) : fault.IsLasting := by
  unfold rendered at herror
  split at herror
  next raised hlaunch =>
    cases herror
    exact isLasting_startFault (h.launch raised hlaunch)
  next =>
    have hstart : (Engine.Run.start true (.real job.duration)).stage.Tells Fault.IsLasting :=
      trivial
    have htells : (answers.run job).stage.Tells Fault.IsLasting :=
      tells_watched hstart answers.engine
    unfold runResult at herror
    split at herror
    next raised hstage =>
      cases herror
      rw [hstage] at htells
      exact htells
    next => cases herror

theorem isForeign_of_recorded (h : answers.IsGenuine config job) {url : Json} {fault : Fault}
    (herror : answers.recorded job url = .error fault) : fault.IsForeign := by
  rcases error_of_bind_eq_error herror with hsuccess | ⟨done, -, hend⟩
  · rcases hcompletion : answers.completion with ⟨world, reply⟩
    rw [hcompletion] at hsuccess
    cases reply with
    | genuine => exact Store.isForeign_of_markCompleted (error_of_map_eq_error hsuccess)
    | «instead» value => cases hsuccess
    | raises raised committed =>
        cases hsuccess
        exact h.completion _ committed (congrArg Prod.snd hcompletion)
  · cases hend

/-! ## Assets -/

/-- A fetching that fails cannot make its directory, or one of the assets has failed. -/
theorem fault_of_located {document : Document} {fault : Fault}
    (h : answers.located config job document = .error fault) :
    fault.IsForeign ∨ ∃ asset ∈ answers.assets, asset.2.2 = .error fault := by
  unfold located at h
  split at h
  · cases h
  · rcases error_of_bind_eq_error h with hmake | ⟨_, -, hgather⟩
    · exact .inl (World.isForeign_of_makeDirectories hmake)
    · cases houtcome : (gathered (assetDirectory config job.id) answers.assets
          (.start (wanted document))).outcome? with
      | none =>
          rw [houtcome] at hgather
          cases hgather
      | some outcome =>
          rw [houtcome] at hgather
          obtain rfl : outcome = .error fault := hgather
          obtain ⟨id, hfailed⟩ :=
            Gathering.exists_of_failure? (Gathering.failure?_of_outcome? houtcome)
          rcases mem_gathered answers.assets hfailed with hcancelled | hbefore |
            ⟨world, received, hanswer, hresult⟩
          · cases hcancelled
          · -- at the start nothing has failed
            simp [Gathering.start] at hbefore
          · have hdeliver := TaskState.ofResult_eq_failed.mp hresult.symm
            rcases World.fault_of_deliver hdeliver with rfl | hforeign
            · exact .inr ⟨_, hanswer, rfl⟩
            · exact .inl hforeign

/-- A fetching fails for good, unless a medium has a locator with the scheme `blob`. -/
theorem isLasting_of_located (h : answers.IsGenuine config job) {document : Document}
    (hloaded : answers.loaded config job = .ok document) {fault : Fault}
    (herror : answers.located config job document = .error fault) :
    fault.IsLasting ∨ ∃ item ∈ wanted document, schemeOf item.locator = "blob" := by
  rcases fault_of_located herror with hforeign | ⟨asset, hasset, hfault⟩
  · exact .inl hforeign.isLasting
  · obtain ⟨item, hitem, -, hyields⟩ := h.assets document hloaded asset hasset
    rcases hyields.isLasting hfault with hlasting | hscheme
    · exact .inl hlasting
    · exact .inr ⟨item, hitem, hscheme⟩

/-! ## All stages -/

/-- An export fails for good, unless a medium has a locator with the scheme `blob`. -/
theorem isLasting_of_outcome (h : answers.IsGenuine config job) {trouble : Trouble}
    (herror : answers.outcome config job = .error trouble) :
    trouble.IsLasting job ∨ ∃ document, answers.loaded config job = .ok document ∧
      ∃ item ∈ wanted document, schemeOf item.locator = "blob" := by
  -- the stages in their order: preparing, rendering, publishing and recording
  rcases error_of_bind_eq_error herror with hpublished | ⟨url, -, hrecord⟩
  · rcases error_of_bind_eq_error hpublished with hfilmed | ⟨_, -, hpublish⟩
    · rcases error_of_bind_eq_error hfilmed with hprepared | ⟨_, -, hrender⟩
      · rcases error_of_bind_eq_error hprepared with hscratch | ⟨_, -, hrest⟩
        · obtain ⟨fault, hfault, rfl⟩ := Stage.attempt_eq_error.mp hscratch
          have hforeign := World.isForeign_of_makeDirectories hfault
          exact .inl (Trouble.isLasting_of_fault hforeign.isLasting)
        · rcases error_of_bind_eq_error hrest with hload | ⟨document, hload, hfetch⟩
          · exact .inl (isLasting_of_loaded hload)
          · rcases error_of_bind_eq_error hfetch with hlocate | ⟨locators, -, hcompile⟩
            · obtain ⟨fault, hfault, rfl⟩ := Stage.attempt_eq_error.mp hlocate
              rcases isLasting_of_located h hload hfault with hlasting | hscheme
              · exact .inl (Trouble.isLasting_of_fault hlasting)
              · exact .inr ⟨document, hload, hscheme⟩
            · obtain ⟨fault, hfault, rfl⟩ := Stage.attempt_eq_error.mp hcompile
              have hforeign := Progress.isForeign_of_mapError hfault
              exact .inl (Trouble.isLasting_of_fault hforeign.isLasting)
      · obtain ⟨fault, hfault, rfl⟩ := Stage.attempt_eq_error.mp hrender
        exact .inl (Trouble.isLasting_of_fault (isLasting_of_rendered h hfault))
    · rcases error_of_bind_eq_error hpublish with hupload | ⟨_, -, hsign⟩
      · obtain ⟨fault, -, rfl⟩ := Stage.attempt_eq_error.mp hupload
        exact .inl ⟨.upload, _, nofun, rfl⟩
      · obtain ⟨fault, -, rfl⟩ := Stage.attempt_eq_error.mp hsign
        exact .inl ⟨.upload, _, nofun, rfl⟩
  · obtain ⟨fault, hfault, rfl⟩ := Stage.attempt_eq_error.mp hrecord
    exact .inl (Trouble.isLasting_of_fault (isForeign_of_recorded h hfault).isLasting)

end Answers

/-! ## The gate and the worker -/

/-- The scheme of a locator is `blob` exactly if the gate would refuse what is left of it. -/
theorem schemeOf_eq_blob_iff_isTransientUrl {url : String} :
    schemeOf url = "blob" ↔ isTransientUrl (String.ofList (cleaned url)) = true :=
  schemeOf_eq_blob_iff.trans isTransientUrl_iff.symm

/-- The gate has looked at the url of every medium that is fetched. -/
theorem exists_of_mem_wanted {document : Document} {item : Wanted} (h : item ∈ wanted document) :
    ∃ asset, (item.mediaId, asset) ∈ document.mediaItems ∧ asset.url = some item.locator := by
  obtain ⟨mediaId, -, hitem⟩ := List.mem_filterMap.mp h
  obtain ⟨place, hplace, rfl⟩ := Option.map_eq_some_iff.mp hitem
  obtain ⟨asset, hasset, hlocator⟩ := Option.bind_eq_some_iff.mp hplace
  obtain ⟨before, after, hitems, -⟩ := List.lookup_eq_some_iff.mp hasset
  refine ⟨asset, ?_, (locator?_eq_some.mp hlocator).1⟩
  rw [hitems]
  exact List.mem_append_right before List.mem_cons_self

theorem not_isBlobUrl_of_start {id : JobId} {request : ExportRequest} {submission : Submission}
    (hstart : Submission.start id request = .ok submission) {item : Wanted}
    (hitem : item ∈ wanted request.timeline) : ¬ IsBlobUrl item.locator := by
  intro hblob
  obtain ⟨asset, hasset, hurl⟩ := exists_of_mem_wanted hitem
  obtain ⟨mediaId, hfirst⟩ := exists_isFirstBlob_iff.mpr ⟨_, hasset, item.locator, hurl, hblob⟩
  rw [Submission.start_eq_error_iff.mpr ⟨mediaId, hfirst, rfl⟩] at hstart
  cases hstart

theorem wanted_reloaded (document : Document) : wanted document.reloaded = wanted document := by
  rw [wanted, wanted, referencedMediaIds_reloaded]
  rfl

/-- What is loaded from the text that a submission stored uses the same media. -/
theorem wanted_of_loaded {rule : ObjectRule} {value : Json} {document back : Document}
    {text : String} (hvalue : value.Regular)
    (hvalid : checkDocument rule value = .valid document) (hstored : document.stored = .ok text)
    (hread : answers.fetchedText config job = .ok (.str text))
    (hloaded : answers.loaded config job = .ok back) : wanted back = wanted document := by
  have hdocument : answers.loaded config job = documentIn (.str text) := by
    rw [Answers.loaded, hread]
    rfl
  rw [hdocument] at hloaded
  rcases loadDocument_cases job text with ⟨other, hload, hother⟩ | ⟨_, trouble, -, hother, -⟩
  · rw [hother] at hloaded
    cases hloaded
    rw [eq_reloaded_of_loadDocument hvalue hvalid hstored hload, wanted_reloaded]
  · rw [hother] at hloaded
    cases hloaded

namespace Task

variable {rule : ObjectRule} {value : Json} {id : JobId} {request : ExportRequest}
  {submission : Submission} {text : String} {task : Task}

/-- A timeline that the gate has let pass is exported without being refused as transient, unless
    a medium that it uses has a url in disguise, with blanks in front or with tabs or line breaks
    in it.  The worker refuses exactly the urls that the gate refuses once they are cleaned. -/
theorem process_disguised (hvalue : value.Regular)
    (hvalid : checkDocument rule value = .valid request.timeline)
    (hstart : Submission.start id request = .ok submission)
    (hstored : request.timeline.stored = .ok text) (hphase : task.phase = .created)
    (hcomplete : answers.Complete config task.job) (hgenuine : answers.IsGenuine config task.job)
    (hread : answers.fetchedText config task.job = .ok (.str text)) (world : World) :
    (∀ url, schemeOf url = "blob" ↔ isTransientUrl (String.ofList (cleaned url)) = true) ∧
    ∃ row, (task.process config answers world).1.store.find? task.job.id = some row ∧
      (FailsWith .transientAsset row →
        ∃ item ∈ wanted request.timeline, IsDisguised item.locator ∧
          cleaned item.locator ≠ item.locator.toList) := by
  refine ⟨fun url => schemeOf_eq_blob_iff_isTransientUrl, ?_⟩
  have hsettled := settles_process hcomplete hphase world
  unfold Answers.Settles at hsettled
  cases houtcome : answers.outcome config task.job with
  | ok url =>
      rw [houtcome] at hsettled
      obtain ⟨row, hrow, hcompleted, -⟩ := hsettled
      refine ⟨row, hrow, fun ⟨hfailed, _⟩ => ?_⟩
      rw [hcompleted] at hfailed
      cases hfailed
  | error trouble =>
      rw [houtcome] at hsettled
      obtain ⟨row, hrow, -, hrecorded⟩ := hsettled
      refine ⟨row, hrow, fun ⟨_, more, hmessage⟩ => ?_⟩
      rcases Answers.isLasting_of_outcome hgenuine houtcome with ⟨kind, own, hkind, hown⟩ |
        ⟨back, hloaded, item, hitem, hscheme⟩
      · rw [hrecorded, hown] at hmessage
        exact absurd (Option.some.inj hmessage) (message_ne_transient hkind own more)
      · -- what was loaded uses the media that the gate has looked at
        rw [wanted_of_loaded hvalue hvalid hstored hread hloaded] at hitem
        have hdisguised : IsDisguised item.locator :=
          ⟨not_isBlobUrl_of_start hstart hitem, schemeOf_eq_blob_iff.mp hscheme⟩
        exact ⟨item, hitem, hdisguised, hdisguised.cleaned_ne⟩

/-! ## A film at a url -/

/-- A timeline with one film, which is found at a url. -/
def sampleLink (url : String) : Json :=
  .obj
    [("project", .obj [("canvasSize", .obj [("width", .int 640), ("height", .int 360)])]),
     ("tracks", .arr [.obj
      [("id", .str "t1"),
       ("type", .str "media"),
       ("elements", .arr [.obj
        [("type", .str "media"),
         ("id", .str "e1"),
         ("startTime", .num (.int 1)),
         ("duration", .num (.int 2)),
         ("mediaId", .str "film")]])]]),
     ("mediaItems", .obj
      [("film", .obj [("type", .str "video"), ("url", .str url)])])]

theorem regular_sampleLink (url : String) : (sampleLink url).Regular := by
  simp [sampleLink, Json.int, Json.Regular, Json.RegularItems, Json.RegularFields,
    regular_of_natAbs_lt]

/-- A world without files, in which a job has been claimed. -/
def sampleWorld : World :=
  { store := ⟨[Fleet.sampleRow.taken]⟩ }

/-- The answers for a timeline in a text whose film cannot be fetched. -/
def sampleExport (text : String) (fault : Fault) : Answers :=
  { sampleAnswers with
    read := (sampleWorld, .instead (.str text))
    assets := [(sampleWorld, "film", .error fault)] }

theorem makeDirectories_sampleWorld :
    (sampleWorld.onFiles (Call.makeDirectories
        (scratchDirectory Fleet.sampleConfig sampleTask.job.id))).1 = .ok () ∧
      (sampleWorld.onFiles (Call.makeDirectories
        (assetDirectory Fleet.sampleConfig sampleTask.job.id))).1 = .ok () := by
  decide +kernel

/-- A timeline of that film that the gate lets pass and whose text is loaded. -/
structure Links (url : String) (document : Document) (text : String) : Prop where
  valid : checkDocument .byModel (sampleLink url) = .valid document
  passes : Submission.start ⟨7⟩ ⟨"u", "p", document⟩ =
    .ok { id := ⟨7⟩, request := ⟨"u", "p", document⟩ }
  stored : document.stored = .ok text
  finite : document.hasFiniteAmounts = true
  wanted : wanted document = [⟨"film", url⟩]

/-- Whether there is such a timeline. -/
def passesLinked (url : String) : Bool :=
  (checkDocument .byModel (sampleLink url)).all fun document =>
    (transientMedium? document).isNone && document.stored.isOk && document.hasFiniteAmounts &&
      wanted document = [⟨"film", url⟩]

theorem exists_links {url : String} (h : passesLinked url = true) :
    ∃ document text, Links url document text := by
  obtain ⟨document, hvalid, htest⟩ := Checked.all_eq_true.mp h
  simp only [Bool.and_eq_true, decide_eq_true_eq] at htest
  obtain ⟨⟨⟨hgate, hsome⟩, hfinite⟩, hwanted⟩ := htest
  obtain ⟨text, hstored⟩ := exists_of_isOk hsome
  refine ⟨document, text, hvalid, ?_, hstored, hfinite, hwanted⟩
  rw [Submission.start, Option.isNone_iff_eq_none.mp hgate]

namespace Links

variable {url : String} {document : Document}

theorem loaded (h : Links url document text) (fault : Fault) :
    (sampleExport text fault).loaded Fleet.sampleConfig sampleTask.job = .ok document.reloaded :=
  Answers.loaded_of_stored (regular_sampleLink url) h.valid h.stored h.finite rfl

theorem awaits (url : String) : (Gathering.start [⟨"film", url⟩]).awaits "film" = true := by
  simp [Gathering.start, Gathering.awaits]

/-- The film is the only medium, so its failure is that of the fetching. -/
theorem gathered (url text : String) (fault : Fault) :
    gathered (assetDirectory Fleet.sampleConfig sampleTask.job.id) (sampleExport text fault).assets
        (.start [⟨"film", url⟩]) =
      (Gathering.start [⟨"film", url⟩]).finish "film" (.error fault) :=
  if_pos (awaits url)

theorem located (h : Links url document text) (fault : Fault) :
    (sampleExport text fault).located Fleet.sampleConfig sampleTask.job document.reloaded =
      .error fault := by
  unfold Answers.located
  rw [wanted_reloaded, h.wanted]
  dsimp only
  rw [gathered, Gathering.outcome?_finish_error (Gathering.failure?_start _) (awaits url)]
  -- the world is the one that the read has found
  show (sampleWorld.onFiles (Call.makeDirectories
    (assetDirectory Fleet.sampleConfig sampleTask.job.id))).1 >>= _ = _
  rw [makeDirectories_sampleWorld.2]
  rfl

theorem outcome (h : Links url document text) (fault : Fault) :
    (sampleExport text fault).outcome Fleet.sampleConfig sampleTask.job =
      .error ⟨.fetching, fault⟩ := by
  have hscratched : (sampleExport text fault).scratched Fleet.sampleConfig sampleTask.job =
      .ok () :=
    makeDirectories_sampleWorld.1
  rw [Answers.outcome, Answers.published, Answers.filmed, Answers.prepared, hscratched,
    h.loaded fault]
  show ((((Stage.fetching.attempt (Answers.located _ _ _ _)) >>= _) >>= _) >>= _) >>= _ = _
  rw [h.located fault]
  rfl

theorem complete (h : Links url document text) {fault : Fault}
    (htext : Text.utf8Refusal? (ownMessage fault).toList = none) :
    (sampleExport text fault).Complete Fleet.sampleConfig sampleTask.job where
  assets back hback := by
    rw [h.loaded fault] at hback
    cases hback
    rw [wanted_reloaded, h.wanted, gathered]
    exact Gathering.isRunning_cancel _
  engine := complete_sampleAnswers.engine
  completion := complete_sampleAnswers.completion
  completionRow := complete_sampleAnswers.completionRow
  failure := rfl
  failureRow := complete_sampleAnswers.failureRow
  failureText trouble htrouble := by
    rw [h.outcome fault] at htrouble
    cases htrouble
    have hmessage : Trouble.message sampleTask.job ⟨.fetching, fault⟩ = ownMessage fault := rfl
    refine ⟨some (ownMessage fault), ?_⟩
    rw [hmessage, Cell.text, htext]

theorem isGenuine (h : Links url document text) {fault : Fault}
    (hyields : Wanted.Yields ⟨"film", url⟩ (.error fault)) :
    (sampleExport text fault).IsGenuine Fleet.sampleConfig sampleTask.job where
  assets back hback asset hasset := by
    rw [h.loaded fault] at hback
    cases hback
    obtain rfl := List.mem_singleton.mp hasset
    rw [wanted_reloaded, h.wanted]
    exact ⟨_, List.mem_singleton_self _, rfl, hyields⟩
  launch := nofun
  completion := nofun

end Links

/-- No server knows the film, so the export fails; and not as transient, for its url stands as
    it is. -/
theorem process_disguised_sampleLink :
    ∃ document text, Links "https://media.test/film.mp4" document text ∧
      ∃ row, (sampleTask.process Fleet.sampleConfig (sampleExport text
          (assetFailure .asset "Download returned HTTP 404" "film")) {}).1.store.find?
            sampleTask.job.id = some row ∧
        ¬ FailsWith .transientAsset row := by
  have hreceived : (Web.transfer [] true ⟨"film", "https://media.test/film.mp4"⟩).received =
      .error (assetFailure .asset "Download returned HTTP 404" "film") := by
    decide +kernel
  have hyields := Web.yields_transfer [] true ⟨"film", "https://media.test/film.mp4"⟩
  rw [hreceived] at hyields
  have hlinked : passesLinked "https://media.test/film.mp4" = true := by
    decide +kernel
  obtain ⟨document, text, h⟩ := exists_links hlinked
  obtain ⟨-, row, hrow, hcause⟩ := process_disguised (regular_sampleLink _) h.valid h.passes
    h.stored rfl (h.complete (by decide +kernel)) (h.isGenuine hyields) rfl {}
  refine ⟨document, text, h, row, hrow, fun hfails => ?_⟩
  obtain ⟨item, hitem, -, hchanged⟩ := hcause hfails
  have hwanted : wanted document = [⟨"film", "https://media.test/film.mp4"⟩] := h.wanted
  rw [hwanted] at hitem
  obtain rfl := List.mem_singleton.mp hitem
  exact hchanged (by decide +kernel)

/-- With a space in front, a url for a browser passes the gate, and the worker refuses it. -/
theorem fails_disguised_sampleLink :
    isTransientUrl " blob:https://app.test/1" = false ∧
      schemeOf " blob:https://app.test/1" = "blob" ∧
      ∃ document text answers, Links " blob:https://app.test/1" document text ∧
        answers.Complete Fleet.sampleConfig sampleTask.job ∧
        answers.IsGenuine Fleet.sampleConfig sampleTask.job ∧
        answers.fetchedText Fleet.sampleConfig sampleTask.job = .ok (.str text) ∧
        ∃ row, (sampleTask.process Fleet.sampleConfig answers {}).1.store.find?
            sampleTask.job.id = some row ∧
          FailsWith .transientAsset row := by
  have hroute : (Web.transfer [] true ⟨"film", " blob:https://app.test/1"⟩).received =
      .error (assetFailure .transientAsset "Asset still references an in-browser blob: URL"
        "film") := by
    decide +kernel
  have hyields := Web.yields_transfer [] true ⟨"film", " blob:https://app.test/1"⟩
  rw [hroute] at hyields
  have hlinked : passesLinked " blob:https://app.test/1" = true := by
    decide +kernel
  obtain ⟨document, text, h⟩ := exists_links hlinked
  have hcomplete : (sampleExport text (assetFailure .transientAsset
      "Asset still references an in-browser blob: URL" "film")).Complete Fleet.sampleConfig
        sampleTask.job :=
    h.complete (by decide +kernel)
  have hsettled := settles_process hcomplete rfl {}
  unfold Answers.Settles at hsettled
  rw [h.outcome] at hsettled
  obtain ⟨row, hrow, hfailed, hmessage⟩ := hsettled
  exact ⟨by decide +kernel, by decide +kernel, document, text, _, h, hcomplete,
    h.isGenuine hyields, rfl, row, hrow, hfailed, _, hmessage⟩

end Task

end Montage.Worker
