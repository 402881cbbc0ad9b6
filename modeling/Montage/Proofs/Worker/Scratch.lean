/-
  Montage.Proofs.Worker.Scratch

  What a task does to the files.  It removes the directory that it works in, and writes only
  into that directory and to the video of its job; the directories and the timelines that lie
  elsewhere stay.
-/
import Montage.Proofs.Asset.FileName
import Montage.Proofs.Storage.Keys
import Montage.Proofs.Worker.Task

namespace Montage.Worker

open Montage.Asset Montage.File Montage.Jobs Montage.Storage

/-! ## Places of a job -/

theorem isPlainName_assets : Path.IsPlainName "assets" :=
  ⟨by decide, by decide, by decide⟩

theorem isPlainName_video : Path.IsPlainName "export.mp4" :=
  ⟨by decide, by decide, by decide⟩

theorem isPlainName_timeline : Path.IsPlainName "timeline.json" :=
  ⟨by decide, by decide, by decide⟩

/-- The place of the directory that a job works in. -/
def scratchPlace (config : Config) (id : JobId) : Place :=
  Place.reach [] (scratchDirectory config id).names

theorem reach_asset (config : Config) (id : JobId) {name : String} (h : Path.IsPlainName name) :
    Place.reach [] ((assetDirectory config id).child name).names =
      scratchPlace config id ++ ["assets", name] := by
  rw [Path.child_of_plain h, Place.reach_concat _ _ h.notUp, assetDirectory,
    Path.child_of_plain isPlainName_assets, Place.reach_concat _ _ isPlainName_assets.notUp,
    scratchPlace, List.append_assoc]
  rfl

theorem name_outputPath (config : Config) (id : JobId) :
    (outputPath config id).name = "export.mp4" := by
  rw [outputPath, Path.child_of_plain isPlainName_video, Path.name, List.getLast?_concat]
  rfl

/-- Wherever a video is put, its place has its name. -/
theorem getLast?_video (config : Config) (job : Job) :
    (Place.reach [] (config.output.path job.outputKey).names).getLast? = some "export.mp4" ∧
      (Place.reach [] ((config.output.path job.outputKey).child
        (outputPath config job.id).name).names).getLast? = some "export.mp4" := by
  constructor
  · obtain ⟨init, hreach⟩ :=
      exists_reach_jobKey config.output job.userId job.id isPlainName_video
    rw [outputKey_eq, hreach, List.getLast?_append_of_ne_nil _ (by simp)]
    rfl
  · rw [name_outputPath, Path.child_of_plain isPlainName_video,
      Place.reach_concat _ _ isPlainName_video.notUp, List.getLast?_concat]

/-! ## What a task does at a place -/

/-- Whether a place is on the way to the directory of a job, its timeline or its video. -/
def IsOnWay (config : Config) (job : Job) (place : Place) : Prop :=
  place ∈ Place.passed [] (scratchDirectory config job.id).names ∨
    place ∈ Place.passed [] (config.input.path job.inputKey).names ∨
      place ∈ Place.passed [] (config.output.path job.outputKey).names

/-- Whether the video of a job is put at a place. -/
def IsForVideo (config : Config) (job : Job) (place : Place) : Prop :=
  Place.reach [] (config.output.path job.outputKey).names = place ∨
    Place.reach [] ((config.output.path job.outputKey).child
      (outputPath config job.id).name).names = place

/-- Whether a kind of change takes in what the task of a job does at a place.  It makes
directories on its ways and puts its video where that belongs; in the directory that it works
in, it may do anything. -/
structure TakesIn (config : Config) (job : Job) (change : Option Entry → Option Entry → Prop)
    (place : Place) : Prop where
  made : IsOnWay config job place → change none (some .directory)
  video : IsForVideo config job place →
    ∀ before bytes, before ≠ some .directory → change before (some (.file bytes))
  own : scratchPlace config job.id <+: place → ∀ before after, change before after

variable {place : Place} {entry : Entry} {change : Option Entry → Option Entry → Prop}
  [IsPreorder (Option Entry) change] {config : Config} {job : Job}

theorem keepsTo_makeScratch (h : TakesIn config job change place) :
    Call.KeepsTo change place (Call.makeDirectories (scratchDirectory config job.id)) := by
  refine Call.keepsTo_makeDirectories fun hplace => ?_
  rcases hplace with hway | rfl
  · exact h.made (.inl hway)
  · exact h.own List.prefix_rfl _ _

theorem keepsTo_makeAssets (h : TakesIn config job change place) :
    Call.KeepsTo change place (Call.makeDirectories (assetDirectory config job.id)) := by
  have hnames : (assetDirectory config job.id).names =
      (scratchDirectory config job.id).names ++ ["assets"] := by
    rw [assetDirectory, Path.child_of_plain isPlainName_assets]
  refine Call.keepsTo_makeDirectories fun hplace => ?_
  rw [hnames, Place.passed_concat, Place.reach_concat _ _ isPlainName_assets.notUp,
    List.mem_append, List.mem_singleton, ← scratchPlace] at hplace
  rcases hplace with (hway | hscratch) | hassets
  · exact h.made (.inl hway)
  · rw [hscratch] at h
    exact h.own List.prefix_rfl _ _
  · rw [← hassets] at h
    exact h.own (List.prefix_append _ _) _ _

theorem keepsTo_deliver (h : TakesIn config job change place) {received : Except Fault Received}
    (hreceived : ∀ file, received = .ok file → file.IsFetched) :
    Call.KeepsTo change place (deliver (assetDirectory config job.id) received) := by
  refine Asset.keepsTo_deliver fun file hfile hreach before _ => h.own ?_ _ _
  rw [← hreach, reach_asset config job.id (hreceived file hfile).isPlainName]
  exact List.prefix_append _ _

theorem keepsTo_uploadOutput (h : TakesIn config job change place) :
    Call.KeepsTo change place (config.output.upload (outputPath config job.id) job.outputKey) :=
  Bucket.keepsTo_upload (fun hway => h.made (.inr (.inr hway))) h.video

namespace World

/-- Whether what becomes of a place is a change of this kind. -/
def KeepsTo (change : Option Entry → Option Entry → Prop) (place : Place) (before after : World) :
    Prop :=
  change (before.files.entryAt place) (after.files.entryAt place)

theorem KeepsTo.refl (world : World) : KeepsTo change place world world :=
  refl_of change _

theorem KeepsTo.trans {before middle after : World} (hfirst : KeepsTo change place before middle)
    (hsecond : KeepsTo change place middle after) : KeepsTo change place before after :=
  trans_of change hfirst hsecond

theorem KeepsTo.of_files {before after : World} (h : after.files = before.files) :
    KeepsTo change place before after := by
  rw [KeepsTo, h]
  exact refl_of change _

omit [IsPreorder (Option Entry) change] in
theorem keepsTo_onFiles {α : Type} {call : Call α} (h : Call.KeepsTo change place call)
    (world : World) : KeepsTo change place world (world.onFiles call).2 :=
  h world.files

omit [IsPreorder (Option Entry) change] in
theorem keepsTo_of_onFiles {α : Type} {call : Call α} (hcall : Call.KeepsTo change place call)
    {world after : World} {result : Except Fault α} (h : world.onFiles call = (result, after)) :
    KeepsTo change place world after := by
  have hkeeps := keepsTo_onFiles hcall world
  rwa [h] at hkeeps

theorem run_of_onFiles {α : Type} {call : Call α} {world after : World} {result : Except Fault α}
    (h : world.onFiles call = (result, after)) :
    call.run.run world.files = (result, after.files) := by
  unfold onFiles at h
  cases h
  rfl

end World

/-! ## Replies -/

open World

theorem keepsTo_readReply (hjob : TakesIn config job change place) {reply : Reply}
    {world after : World} {result : Except Fault String}
    (h : readReply config job reply world = (result, after)) :
    KeepsTo change place world after := by
  have hread := keepsTo_onFiles (@Bucket.keepsTo_readText place config.input change _ job.inputKey
    fun hway => hjob.made (.inr (.inl hway))) world
  unfold readReply at h
  split at h
  · cases h
    exact hread
  · cases h
    exact .refl world
  · cases h
    exact .refl world
  · cases h
    exact .refl world

theorem keepsTo_uploadReply (hjob : TakesIn config job change place) {reply : Reply}
    {world after : World} {result : Except Fault Unit}
    (h : uploadReply config job reply world = (result, after)) :
    KeepsTo change place world after := by
  have hupload := keepsTo_onFiles (keepsTo_uploadOutput hjob) world
  unfold uploadReply at h
  dsimp only at h
  split at h
  · cases h
    exact hupload
  · cases h
    exact .refl world
  · cases h
    split
    · exact hupload
    · exact .refl world

theorem keepsTo_signReply (hjob : TakesIn config job change place) {reply : Reply}
    {world after : World} {result : Except Fault Json}
    (h : signReply config job reply world = (result, after)) :
    KeepsTo change place world after := by
  have hsign := keepsTo_onFiles (@Bucket.keepsTo_downloadUrl place config.output change _
    job.outputKey fun hway => hjob.made (.inr (.inr hway))) world
  unfold signReply at h
  split at h
  · cases h
    exact hsign
  · cases h
    exact .refl world
  · cases h
    exact .refl world

/-! ## Steps -/

/-- Whether an asset that comes is a file that was made of the payload of a medium. -/
def TaskEvent.IsFetched : TaskEvent → Prop
  | .asset _ (.ok file) => file.IsFetched
  | _ => True

namespace Task

variable {task : Task}

theorem keepsTo_useText (hjob : TakesIn config task.job change place) (text : String)
    (world : World) : KeepsTo change place world (task.useText config text world).1 := by
  unfold useText
  split
  · exact .refl world
  · split
    · exact .refl world
    · split
      next hmade => exact keepsTo_of_onFiles (keepsTo_makeAssets hjob) hmade
      next hmade => exact keepsTo_of_onFiles (keepsTo_makeAssets hjob) hmade

/-- The end of a task takes nothing but its directory. -/
theorem keepsTo_conclude
    (hown : scratchPlace config task.job.id <+: place → ∀ before after, change before after)
    (ending : Ending) (world : World) :
    KeepsTo change place world (task.conclude config ending world).1 := by
  have hremove : Call.KeepsTo change place (Call.remove (scratchDirectory config task.job.id)) :=
    Call.keepsTo_remove fun hbelow before => hown hbelow before none
  have hkeeps := keepsTo_onFiles hremove world
  unfold conclude
  dsimp only
  exact hkeeps

theorem keepsTo_cancelAt (hjob : TakesIn config task.job change place) (committed : Bool)
    (world : World) : KeepsTo change place world (task.cancelAt config committed world).1 := by
  have hfiles : (if committed then (world.change task.pendingWrite).2 else world).files =
      world.files := by
    split
    · exact files_change task.pendingWrite world
    · rfl
  unfold cancelAt
  generalize (if committed then (world.change task.pendingWrite).2 else world) = after at hfiles
  have hwritten : KeepsTo change place world after := .of_files hfiles
  dsimp only
  split
  · exact hwritten
  · exact hwritten
  · exact hwritten.trans (keepsTo_conclude hjob.own .cancelled after)
  · exact hwritten
  · exact hwritten

/-- What a step of a task does at a place. -/
theorem keepsTo_step (hjob : TakesIn config task.job change place) {event : TaskEvent}
    (hevent : event.IsFetched) (world : World) :
    KeepsTo change place world (task.step config event world).1 := by
  have hwrite : ∀ reply, KeepsTo change place world (world.write task.pendingWrite reply).2 :=
    fun reply => .of_files (files_write task.pendingWrite reply world)
  unfold step
  split
  · split
    next hmade => exact keepsTo_of_onFiles (keepsTo_makeScratch hjob) hmade
    next hmade => exact keepsTo_of_onFiles (keepsTo_makeScratch hjob) hmade
  · split
    next text after hread =>
      exact (keepsTo_readReply hjob hread).trans (keepsTo_useText hjob text after)
    next hread => exact keepsTo_readReply hjob hread
  next received document gathering _ =>
    split
    · refine keepsTo_onFiles (keepsTo_deliver hjob fun file hfile => ?_) world
      subst hfile
      exact hevent
    · exact .refl world
  · exact .refl world
  · exact .refl world
  · exact .refl world
  next reply _ _ =>
    split
    · exact hwrite reply
    · exact .refl world
  · split
    next hupload => exact keepsTo_uploadReply hjob hupload
    next hupload => exact keepsTo_uploadReply hjob hupload
  · split
    next hsign => exact keepsTo_signReply hjob hsign
    next hsign => exact keepsTo_signReply hjob hsign
  next reply _ _ =>
    have hdone := hwrite reply
    split
    next after hresult =>
      rw [hresult] at hdone
      exact hdone.trans (keepsTo_conclude hjob.own .finished after)
    next fault after hresult =>
      rw [hresult] at hdone
      exact hdone
  next reply _ _ _ => exact (hwrite reply).trans (keepsTo_conclude hjob.own _ _)
  · exact keepsTo_cancelAt hjob _ world
  · exact .refl world

end Task

/-! ## Entries that stay -/

/-- Whether an entry is a directory or stands where a timeline does. -/
def IsKept (place : Place) (entry : Entry) : Prop :=
  entry = .directory ∨ place.getLast? = some "timeline.json"

/-- The directories and the timelines that do not lie in the directory that a task works in
stay whatever it does. -/
theorem takesIn_stays (houtside : ¬ scratchPlace config job.id <+: place)
    (hkept : IsKept place entry) : TakesIn config job entry.Stays place := by
  refine ⟨fun _ => nofun, fun hvideo before bytes hbefore hentry => ?_,
    fun hinside => absurd hinside houtside⟩
  obtain ⟨hfile, hinside⟩ := getLast?_video config job
  rcases hkept with rfl | hlast
  · exact absurd hentry hbefore
  · rcases hvideo with rfl | rfl
    · rw [hlast] at hfile
      exact absurd (Option.some.inj hfile) (by decide)
    · rw [hlast] at hinside
      exact absurd (Option.some.inj hinside) (by decide)

end Montage.Worker
