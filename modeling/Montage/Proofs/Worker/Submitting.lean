/-
  Montage.Proofs.Worker.Submitting

  Submissions.  Timelines whose media still have urls that only a browser can resolve are
  refused, whether the timeline uses these media or not.

  One submission among others.  Its document is in input storage before its row is added, and
  others leave both alone: they write to other places and add other rows.  Only a document
  that is put into a directory in which a worker works may be removed.
-/
import Montage.Proofs.Asset.Scheme
import Montage.Proofs.Timeline.Stored
import Montage.Proofs.Worker.Rows
import Montage.Proofs.Worker.Scratch

namespace Montage.Worker

open Montage.Api Montage.File Montage.Jobs Montage.Storage Montage.Timeline

/-! ## Refusals -/

/-- Whether a medium still has a url that only a browser can resolve. -/
def HasBlobUrl (asset : MediaAsset) : Prop :=
  ∃ url, asset.url = some url ∧ IsBlobUrl url

theorem getD_isTransientUrl_iff {asset : MediaAsset} :
    (asset.url.map isTransientUrl).getD false = true ↔ HasBlobUrl asset := by
  unfold HasBlobUrl
  cases asset.url with
  | none => simp
  | some url => simp [isTransientUrl_iff]

/-- Whether a medium is the first one of a document with such a url. -/
def IsFirstBlob (document : Document) (mediaId : String) : Prop :=
  ∃ before asset after, document.mediaItems = before ++ (mediaId, asset) :: after ∧
    HasBlobUrl asset ∧ ∀ item ∈ before, ¬ HasBlobUrl item.2

theorem transientMedium?_eq_some_iff {document : Document} {mediaId : String} :
    transientMedium? document = some mediaId ↔ IsFirstBlob document mediaId := by
  unfold transientMedium? IsFirstBlob
  rw [Option.map_eq_some_iff]
  simp only [List.find?_eq_some_iff_append, getD_isTransientUrl_iff, Bool.not_eq_true',
    ← Bool.not_eq_true]
  constructor
  · rintro ⟨⟨other, asset⟩, ⟨hblob, before, after, hitems, hbefore⟩, rfl⟩
    exact ⟨before, asset, after, hitems, hblob, hbefore⟩
  · rintro ⟨before, asset, after, hitems, hblob, hbefore⟩
    exact ⟨(mediaId, asset), ⟨hblob, before, after, hitems, hbefore⟩, rfl⟩

theorem exists_isFirstBlob_iff {document : Document} :
    (∃ mediaId, IsFirstBlob document mediaId) ↔
      ∃ item ∈ document.mediaItems, HasBlobUrl item.2 := by
  simp only [← transientMedium?_eq_some_iff, ← Option.isSome_iff_exists]
  unfold transientMedium?
  rw [Option.isSome_map, List.find?_isSome]
  simp only [getD_isTransientUrl_iff]

namespace Submission

/-- A submission is refused exactly if some medium has such a url, and the first one is
named. -/
theorem start_eq_error_iff {id : JobId} {request : ExportRequest} {fault : Fault} :
    start id request = .error fault ↔
      ∃ mediaId, IsFirstBlob request.timeline mediaId ∧
        fault = .failed (transientFailure mediaId) := by
  simp only [← transientMedium?_eq_some_iff, start]
  cases transientMedium? request.timeline with
  | none => simp
  | some mediaId =>
      simp only [Except.error.injEq, Option.some.injEq, exists_eq_left']
      exact eq_comm

theorem start_eq_ok {id : JobId} {request : ExportRequest} {submission : Submission}
    (h : start id request = .ok submission) : submission = { id, request } := by
  unfold start at h
  split at h
  · cases h
  · cases h
    rfl

end Submission

/-! ## Directories of workers -/

/-- Whether a place lies in a directory in which a worker with one of these set-ups works on a
job. -/
def InScratch (configs : List Config) (place : Place) : Prop :=
  ∃ config ∈ configs, ∃ id, scratchPlace config id <+: place

/-- Whether a path leads to a place where no worker works, and through such places. -/
structure IsClear (configs : List Config) (path : Path) : Prop where
  way : ∀ place ∈ Place.passed [] path.names, ¬ InScratch configs place
  last : ¬ InScratch configs (Place.reach [] path.names)

/-- A file of a job lies where no worker works if the user id in its key does not lead out of the
bucket, and bucket and directories of workers are apart. -/
theorem isClear_of_inside {configs : List Config} {bucket : Bucket} {userId file : String}
    {id : JobId} (hfile : Path.IsPlainName file)
    (hroot : (Path.ofText (jobKey userId id file)).root = .relative)
    (hup : ".." ∉ (Path.ofText userId).names) (hbase : ".." ∉ bucket.base.names)
    (hconfigs : ∀ config ∈ configs, ".." ∉ config.scratchRoot.names ∧
      ¬ config.scratchRoot.names <+: bucket.base.names ∧
      ¬ bucket.base.names <+: config.scratchRoot.names) :
    IsClear configs (bucket.path (jobKey userId id file)) := by
  have hnames : (bucket.path (jobKey userId id file)).names =
      bucket.base.names ++ ((Path.ofText userId).names ++ [id.text, file]) := by
    rw [Bucket.path, Path.child, Path.join, hroot, names_jobKey userId id hfile]
  have hdown : ".." ∉ (bucket.path (jobKey userId id file)).names := by
    have hid : ".." ≠ id.text := Ne.symm id.isPlainName_text.notUp
    simp [hnames, hbase, hup, hid, Ne.symm hfile.notUp]
  -- what lies on the way begins with the bucket, and so not with the directory of a worker
  have houtside : ∀ place, place <+: (bucket.path (jobKey userId id file)).names →
      ¬ InScratch configs place := by
    rintro place hplace ⟨config, hconfig, other, hscratch⟩
    obtain ⟨hscratchUp, hbelow, habove⟩ := hconfigs config hconfig
    have hscratchNames : (scratchDirectory config other).names =
        config.scratchRoot.names ++ [other.text] := by
      rw [scratchDirectory, Path.child_of_plain other.isPlainName_text]
    have hscratchDown : ".." ∉ (scratchDirectory config other).names := by
      have hother : ".." ≠ other.text := Ne.symm other.isPlainName_text.notUp
      simp [hscratchNames, hscratchUp, hother]
    have hwhole := hscratch.trans hplace
    rw [scratchPlace, Place.reach_of_no_up hscratchDown, List.nil_append, hscratchNames,
      hnames] at hwhole
    rcases List.prefix_or_prefix_of_prefix ((List.prefix_append _ _).trans hwhole)
      (List.prefix_append bucket.base.names _) with hin | hout
    · exact hbelow hin
    · exact habove hout
  refine ⟨fun place hplace => houtside place ?_, houtside _ ?_⟩
  · have hprefix := Place.prefix_of_mem_passed hdown hplace
    rwa [List.nil_append] at hprefix
  · have hreach := @Place.reach_of_no_up _ hdown []
    rw [List.nil_append] at hreach
    exact ⟨[], (List.append_nil _).trans hreach⟩

namespace World

/-- What leaves a job alone: its row stays as it was made, and where no worker works, its
timeline stays and all directories. -/
structure Leaves (configs : List Config) (id : JobId) (before after : World) : Prop where
  row : after.store.made? id = before.store.made? id
  files : ∀ place (entry : Entry), ¬ InScratch configs place →
    (entry = .directory ∨ ∃ init, place = init ++ [id.text, "timeline.json"]) →
      KeepsTo entry.Stays place before after

variable {configs : List Config} {id : JobId}

theorem Leaves.refl (world : World) : Leaves configs id world world :=
  ⟨rfl, fun _ _ _ _ => .refl world⟩

theorem Leaves.of_files {before after : World}
    (hrow : after.store.made? id = before.store.made? id) (hfiles : after.files = before.files) :
    Leaves configs id before after :=
  ⟨hrow, fun _ _ _ _ => .of_files hfiles⟩

end World

theorem Statement.files_run (statement : Statement) (world : World) :
    (statement.run world).files = world.files := by
  cases statement with
  | claim id => rfl
  | setProgress id progress => exact World.files_change _ world
  | markCompleted id url => exact World.files_change _ world
  | markFailed id message => exact World.files_change _ world

theorem Statement.leaves_run {configs : List Config} (statement : Statement) (id : JobId)
    (world : World) : World.Leaves configs id world (statement.run world) :=
  .of_files (statement.made?_run id world) (statement.files_run world)

/-- A task leaves all jobs alone, its own as well. -/
theorem Task.leaves_step {configs : List Config} {config : Config} (hconfig : config ∈ configs)
    {event : TaskEvent} (hevent : event.IsFetched) (id : JobId) (world : World) (task : Task) :
    World.Leaves configs id world (task.step config event world).1 := by
  refine ⟨Store.made?_writes (task.writes_step config event world) id, ?_⟩
  intro place entry houtside hkept
  refine keepsTo_step (takesIn_stays (fun hinside => ?_) (hkept.imp_right ?_)) hevent world
  · exact houtside ⟨config, hconfig, task.job.id, hinside⟩
  · rintro ⟨init, rfl⟩
    rw [List.getLast?_append_of_ne_nil _ (by simp)]
    rfl

namespace Submission

variable {input : Bucket} {configs : List Config} {world : World} {submission : Submission}

/-! ## The document -/

theorem inputKey_eq (submission : Submission) :
    submission.inputKey = jobKey submission.request.userId submission.id "timeline.json" :=
  (@String.append_assoc (submission.request.userId ++ "/" ++ submission.id.text) "/"
    "timeline.json").symm

/-- The path of the document in input storage. -/
def documentPath (input : Bucket) (submission : Submission) : Path :=
  input.path submission.inputKey

theorem exists_reach_documentPath (input : Bucket) (submission : Submission) : ∃ init,
    Place.reach [] (submission.documentPath input).names =
      init ++ [submission.id.text, "timeline.json"] := by
  rw [documentPath, inputKey_eq]
  exact exists_reach_jobKey input submission.request.userId submission.id isPlainName_timeline

/-- Whether the document is in input storage, in the form in which it is stored. -/
def HasDocument (input : Bucket) (world : World) (submission : Submission) : Prop :=
  ∃ text, submission.request.timeline.stored = .ok text ∧
    world.files.Holds (submission.documentPath input) (Text.Utf8.encode text)

theorem HasDocument.leave {after : World} (hleaves : World.Leaves configs submission.id world after)
    (hclear : IsClear configs (submission.documentPath input))
    (h : submission.HasDocument input world) : submission.HasDocument input after := by
  obtain ⟨text, hstored, hholds⟩ := h
  refine ⟨text, hstored, hholds.keep (fun place hplace => ?_) ?_⟩
  · exact hleaves.files place .directory (hclear.way place hplace) (.inl rfl)
  · exact hleaves.files _ _ hclear.last (.inr (exists_reach_documentPath input submission))

/-! ## Phases -/

/-- What the phase of a submission says of the world.  There is no row before it has ended with
one, and none if it has failed; and there is a row only with the document. -/
def Sound (input : Bucket) (configs : List Config) (world : World) (submission : Submission) :
    Prop :=
  match submission.phase with
  | .writing => world.store.made? submission.id = none
  | .inserting => world.store.made? submission.id = none ∧
      (IsClear configs (submission.documentPath input) → submission.HasDocument input world)
  | .ended (.error fault) => world.store.made? submission.id = none ∧
      ∀ mediaId, fault ≠ .failed (transientFailure mediaId)
  | .ended (.ok _) =>
      (∃ row, world.store.made? submission.id = some row ∧
        IsRowOf submission.request submission.id row) ∧
      (IsClear configs (submission.documentPath input) → submission.HasDocument input world)

/-- There is a row only if the submission has ended with it. -/
theorem Sound.exists_of_row (h : submission.Sound input configs world)
    (hrow : world.store.made? submission.id ≠ none) :
    ∃ job, submission.phase = .ended (.ok job) := by
  unfold Sound at h
  cases hphase : submission.phase with
  | writing =>
      rw [hphase] at h
      exact absurd h hrow
  | inserting =>
      rw [hphase] at h
      exact absurd h.1 hrow
  | ended result =>
      rw [hphase] at h
      cases result with
      | error fault => exact absurd h.1 hrow
      | ok job => exact ⟨job, rfl⟩

/-- A submission that has ended with a row: the row says what was asked for, and its document is
in input storage. -/
theorem Sound.delivered (h : submission.Sound input configs world) {job : Job}
    (hphase : submission.phase = .ended (.ok job)) :
    ∃ row, world.store.find? submission.id = some row ∧
      IsRowOf submission.request submission.id row ∧
      (IsClear configs (input.path row.inputKey) →
        ∃ text, submission.request.timeline.stored = .ok text ∧
          world.files.Holds (input.path row.inputKey) (Text.Utf8.encode text)) := by
  rw [Sound, hphase] at h
  obtain ⟨⟨made, hmadeRow, hmade⟩, hdocument⟩ := h
  obtain ⟨row, hfound, hrow⟩ := Option.map_eq_some_iff.mp hmadeRow
  have hrowOf := hmade.of_asMade hrow
  have hkey : row.inputKey = submission.inputKey := by
    rw [Storage.inputKey_eq, inputKey_eq, hrowOf.userId, hrowOf.id]
  refine ⟨row, hfound, hrowOf, ?_⟩
  rw [hkey]
  exact hdocument

/-- A submission that has failed has no row, and has not failed for a url. -/
theorem Sound.failed (h : submission.Sound input configs world) {fault : Fault}
    (hphase : submission.phase = .ended (.error fault)) :
    world.store.find? submission.id = none ∧
      ∀ mediaId, fault ≠ .failed (transientFailure mediaId) := by
  rw [Sound, hphase] at h
  exact ⟨Store.made?_eq_none_iff.mp h.1, h.2⟩

/-- A submission that others leave alone stays what it is. -/
theorem Sound.leave {after : World} (hleaves : World.Leaves configs submission.id world after)
    (h : submission.Sound input configs world) : submission.Sound input configs after := by
  have hdocument :
      (IsClear configs (submission.documentPath input) → submission.HasDocument input world) →
        IsClear configs (submission.documentPath input) → submission.HasDocument input after :=
    fun hbefore hclear => (hbefore hclear).leave hleaves hclear
  unfold Sound at h ⊢
  rw [hleaves.row]
  cases hphase : submission.phase with
  | writing =>
      rw [hphase] at h
      exact h
  | inserting =>
      rw [hphase] at h
      exact ⟨h.1, hdocument h.2⟩
  | ended result =>
      rw [hphase] at h
      cases result with
      | error fault => exact h
      | ok job => exact ⟨h.1, hdocument h.2⟩

/-! ## Steps -/

/-- Submissions keep what they are for. -/
theorem same_step (input : Bucket) (event : SubmissionEvent) (world : World)
    (submission : Submission) :
    (submission.step input event world).2.id = submission.id ∧
      (submission.step input event world).2.request = submission.request := by
  unfold step
  split
  · unfold writeDocument
    split
    · exact ⟨rfl, rfl⟩
    · dsimp only
      split
      · split <;> exact ⟨rfl, rfl⟩
      · exact ⟨rfl, rfl⟩
      · exact ⟨rfl, rfl⟩
  · exact ⟨rfl, rfl⟩
  · exact ⟨rfl, rfl⟩

/-- What can be relied on in an event of a submission: a document that is taken for written has
been written, and a row whose insertion fails has not been added, for a reason of the table. -/
def IsReliable : SubmissionEvent → Prop
  | .documentWritten (.instead _) => False
  | .rowInserted _ (.raises fault committed) => fault.IsForeign ∧ committed = false
  | _ => True

theorem isForeign_of_insert {createdAt : Int} {store : Store} {fault : Fault}
    (h : store.insert submission.id createdAt submission.draft = .error fault) :
    fault.IsForeign := by
  rcases error_of_bind_eq_error h with hrow | ⟨job, -, h⟩
  · exact isForeign_of_row hrow
  · split at h
    · cases h
      nofun
    · cases h

/-- A row is inserted, or the insertion fails and nothing has happened. -/
theorem insertRow_cases {createdAt : Int} {reply : Reply}
    (hreply : IsReliable (.rowInserted createdAt reply)) (world : World) :
    (∃ job store, world.store.insert submission.id createdAt submission.draft = .ok (job, store) ∧
      insertRow submission.id createdAt submission.draft "id" reply world =
        ({ world with store }, .ok job)) ∨
    (∃ fault, fault.IsForeign ∧
      insertRow submission.id createdAt submission.draft "id" reply world =
        (world, .error fault)) := by
  cases reply with
  | genuine =>
      unfold insertRow
      cases hinsert : world.store.insert submission.id createdAt submission.draft with
      | ok result =>
          obtain ⟨job, store⟩ := result
          exact .inl ⟨job, store, rfl, rfl⟩
      | error fault => exact .inr ⟨fault, isForeign_of_insert hinsert, rfl⟩
  | «instead» value =>
      refine .inr ⟨noFieldFault "id" value, ?_, rfl⟩
      unfold noFieldFault
      nofun
  | raises fault committed =>
      obtain ⟨hforeign, rfl⟩ := hreply
      exact .inr ⟨fault, hforeign, rfl⟩

theorem files_insertRow (createdAt : Int) (field : String) (reply : Reply) (world : World) :
    (insertRow submission.id createdAt submission.draft field reply world).1.files =
      world.files := by
  unfold insertRow
  split
  · split <;> rfl
  · rfl
  · split <;> rfl

/-- The document is written, and nothing is said of it if that fails. -/
theorem sound_writeDocument {reply : Reply} (hreply : IsReliable (.documentWritten reply))
    (hrow : world.store.made? submission.id = none) :
    (submission.writeDocument input reply world).2.Sound input configs
      (submission.writeDocument input reply world).1 := by
  have hfailed : ∀ fault after, after.store = world.store →
      (submission.finish (.error (unstored fault))).Sound input configs after := by
    intro fault after hstore
    refine ⟨?_, nofun⟩
    rw [hstore]
    exact hrow
  unfold writeDocument
  split
  · exact hfailed _ world rfl
  next text htext =>
    dsimp only
    split
    · split
      next after hwritten =>
        have hstore := World.store_of_onFiles hwritten
        have hholds := Bucket.holds_of_writeText (World.run_of_onFiles hwritten)
        refine ⟨?_, fun _ => ⟨text, htext, hholds⟩⟩
        rw [hstore]
        exact hrow
      next hwritten => exact hfailed _ _ (World.store_of_onFiles hwritten)
    · exact hreply.elim
    · refine hfailed _ _ ?_
      split
      · exact World.store_onFiles (input.writeText submission.inputKey text) world
      · rfl

/-- A document that can be stored is written if there can be such a file. -/
theorem writeDocument_genuine {text : String} {files : Tree}
    (hstored : submission.request.timeline.stored = .ok text)
    (hwrite : (input.prepare submission.inputKey >>= fun path =>
      Call.write path (Text.Utf8.encode text)).run.run world.files = (.ok (), files)) :
    submission.writeDocument input .genuine world =
      ({ world with files }, { submission with phase := .inserting }) := by
  have hrun : world.onFiles (input.writeText submission.inputKey text) =
      (.ok (), { world with files }) := by
    rw [Bucket.writeText_eq (utf8Refusal?_stored hstored), World.onFiles, hwrite]
  rw [writeDocument, hstored]
  dsimp only
  rw [hrun]

/-- A step of a submission keeps what its phase says. -/
theorem sound_step {event : SubmissionEvent} (hevent : IsReliable event)
    (h : submission.Sound input configs world) :
    (submission.step input event world).2.Sound input configs
      (submission.step input event world).1 := by
  unfold step
  split
  next reply hphase =>
    refine sound_writeDocument hevent ?_
    rw [Sound, hphase] at h
    exact h
  next createdAt reply hphase =>
    rw [Sound, hphase] at h
    obtain ⟨hnone, hdocument⟩ := h
    rcases insertRow_cases hevent world with ⟨job, store, hinsert, hrun⟩ | ⟨fault, hforeign, hrun⟩
    · rw [hrun]
      obtain ⟨hrow, -, -⟩ := Store.insert_eq_ok hinsert
      obtain ⟨hrowOf, hmade⟩ := isRowOf_of_draft hrow
      refine ⟨⟨job, ?_, hrowOf⟩, hdocument⟩
      have hfound := Store.made?_insert hinsert submission.id
      rwa [if_pos rfl, hmade] at hfound
    · rw [hrun]
      exact ⟨hnone, fun mediaId => hforeign _⟩
  next => exact h

/-- For a document, directories are made on the way to its place, and a file is put there. -/
theorem keepsTo_writeDocument {change : Option Entry → Option Entry → Prop}
    [IsPreorder (Option Entry) change] {place : Place}
    (hway : place ∈ Place.passed [] (submission.documentPath input).names →
      change none (some .directory))
    (hfile : Place.reach [] (submission.documentPath input).names = place →
      ∀ before bytes, before ≠ some .directory → change before (some (.file bytes)))
    (reply : Reply) (world : World) :
    World.KeepsTo change place world (submission.writeDocument input reply world).1 := by
  have hwrite : ∀ text, World.KeepsTo change place world
      (world.onFiles (input.writeText submission.inputKey text)).2 :=
    fun text => World.keepsTo_onFiles (Bucket.keepsTo_writeText hway hfile text) world
  unfold writeDocument
  split
  · exact .refl world
  next text htext =>
    have hkeeps := hwrite text
    dsimp only
    split
    · split
      next hwritten =>
        rw [hwritten] at hkeeps
        exact hkeeps
      next hwritten =>
        rw [hwritten] at hkeeps
        exact hkeeps
    · exact .refl world
    · split
      · exact hkeeps
      · exact .refl world

/-- A submission leaves the jobs of others alone. -/
theorem leaves_step (event : SubmissionEvent) {id : JobId} (hother : id ≠ submission.id)
    (world : World) :
    World.Leaves configs id world (submission.step input event world).1 := by
  constructor
  · rcases store_step input event world submission with hsame | ⟨createdAt, job, hinsert⟩
    · rw [hsame]
    · rw [Store.made?_insert hinsert, if_neg hother]
  · intro place entry houtside hkept
    unfold step
    split
    next reply hphase =>
      refine keepsTo_writeDocument (fun _ => nofun) (fun hreach before bytes hbefore hentry => ?_)
        reply world
      rcases hkept with rfl | ⟨init, rfl⟩
      · exact absurd hentry hbefore
      -- two documents lie at places that end differently
      · obtain ⟨front, hfront⟩ := exists_reach_documentPath input submission
        rw [hfront] at hreach
        have hends := (List.append_inj' hreach (by simp)).2
        exact absurd (JobId.text_injective (List.cons.inj hends).1.symm) hother
    next createdAt reply hphase =>
      have hfiles := @files_insertRow submission createdAt "id" reply world
      generalize insertRow submission.id createdAt submission.draft "id" reply world = inserted
        at hfiles ⊢
      exact World.KeepsTo.of_files hfiles
    next => exact .refl world

end Submission

end Montage.Worker
