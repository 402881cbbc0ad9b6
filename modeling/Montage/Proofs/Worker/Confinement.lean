/-
  Montage.Proofs.Worker.Confinement

  Where the files of a user's jobs are.  A request may name any user, and the name stands in
  front of the keys of the jobs.  What is done with these keys, from the submission of a timeline
  to the url of the video, happens inside of the buckets exactly if the user id is contained.
-/
import Montage.Proofs.Storage.Confinement
import Montage.Proofs.Timeline.Stored
import Montage.Proofs.Worker.Submitting

namespace Montage.Worker

open Montage.Api Montage.File Montage.Jobs Montage.Storage Montage.Timeline Montage.Validation

/-! ## Users -/

/-- A request may name any user. -/
theorem checkExportRequest_of_valid {rule : ObjectRule} {timeline : Json} {document : Document}
    (h : checkDocument rule timeline = .valid document) (userId projectId : String) :
    checkExportRequest rule (.obj
      [("user_id", .str userId), ("project_id", .str projectId), ("timeline_data", timeline)]) =
        .valid ⟨userId, projectId, document⟩ := by
  let fields : List (String × Json) :=
    [("user_id", .str userId), ("project_id", .str projectId), ("timeline_data", timeline)]
  have huser : required (.same "user_id") checkText fields = .valid userId :=
    required_eq_valid rfl (checkText_str userId)
  have hproject : required (.same "project_id") checkText fields = .valid projectId :=
    required_eq_valid rfl (checkText_str projectId)
  have htimeline : required (.same "timeline_data") (checkDocument rule) fields =
      .valid document := required_eq_valid rfl h
  show (ExportRequest.mk <$> required (.same "user_id") checkText fields
    <*> required (.same "project_id") checkText fields
    <*> required (.same "timeline_data") (checkDocument rule) fields) = _
  rw [huser, hproject, htimeline]
  rfl

/-- Two buckets of one storage root have nothing in common. -/
theorem not_prefix_of_other {root : Path} {name other : String} (hname : Path.IsPlainName name)
    (hother : Path.IsPlainName other) (hne : name ≠ other) {place : Place}
    (h : (Bucket.of root name).place <+: place) : ¬ (Bucket.of root other).place <+: place := by
  intro hin
  have hplace : ∀ {last : String}, Path.IsPlainName last →
      (Bucket.of root last).place = Place.reach [] root.names ++ [last] := by
    intro last hlast
    rw [Bucket.place, Bucket.of, Path.child_of_plain hlast, Place.reach_concat _ _ hlast.notUp]
  rw [hplace hname] at h
  rw [hplace hother] at hin
  have hsame := (List.prefix_of_prefix_length_le h hin (by simp)).eq_of_length (by simp)
  exact hne (List.singleton_injective (List.append_cancel_left hsame))

/-! ## Jobs of a user -/

/-- Whether the files of the jobs of a user stay inside of the buckets. -/
structure ConfinesJobs (userId : String) : Prop where
  submitted : ∀ submission : Submission, submission.request.userId = userId →
    ∀ (bucket : Bucket) here, bucket.Confines here submission.inputKey
  /-- The keys of jobs lead strictly below every bucket, wherever one works. -/
  keys : ∀ job : Job, job.userId = userId → ∀ (bucket : Bucket) here,
    bucket.Confines here job.inputKey ∧ bucket.Confines here job.outputKey
  /-- They do not lead into another bucket of the same storage root. -/
  apart : ∀ job : Job, job.userId = userId → ∀ root name other, Path.IsPlainName name →
    Path.IsPlainName other → name ≠ other → ∀ key ∈ [job.inputKey, job.outputKey],
      ¬ (Bucket.of root other).place <+:
        Place.reach [] ((Bucket.of root name).path key).names
  /-- A submission writes its document inside of the bucket. -/
  writes : ∀ submission : Submission, submission.request.userId = userId →
    ∀ (bucket : Bucket) text,
      bucket.KeepsInside (fun _ => False) (bucket.writeText submission.inputKey text)
  reads : ∀ job : Job, job.userId = userId → ∀ bucket : Bucket,
    bucket.KeepsInside (fun _ => False) (bucket.readText job.inputKey)
  /-- The upload reads the video from where the job works, and writes inside of the bucket. -/
  uploads : ∀ job : Job, job.userId = userId → ∀ config (bucket : Bucket),
    bucket.KeepsInside (outputPath config job.id).Along
      (bucket.upload (outputPath config job.id) job.outputKey)
  signs : ∀ job : Job, job.userId = userId → ∀ bucket : Bucket,
    bucket.KeepsInside (fun _ => False) (bucket.downloadUrl job.outputKey)

theorem confinesJobs_of_isContained {userId : String} (h : isContained userId = true) :
    ConfinesJobs userId := by
  have htimeline := @Bucket.encloses_of_isContained userId _ isPlainName_timeline h
  have hvideo := @Bucket.encloses_of_isContained userId _ isPlainName_video h
  have hinput : ∀ job : Job, job.userId = userId → ∀ bucket : Bucket,
      bucket.Encloses (bucket.path job.inputKey) := by
    rintro job rfl bucket
    rw [Storage.inputKey_eq]
    exact htimeline bucket job.id
  have houtput : ∀ job : Job, job.userId = userId → ∀ bucket : Bucket,
      bucket.Encloses (bucket.path job.outputKey) := by
    rintro job rfl bucket
    rw [outputKey_eq]
    exact hvideo bucket job.id
  exact {
    submitted := by
      rintro submission rfl bucket here
      rw [Submission.inputKey_eq]
      exact confines_of_isContained isPlainName_timeline h bucket here submission.id
    keys := by
      rintro job rfl bucket here
      rw [Storage.inputKey_eq, outputKey_eq]
      exact ⟨confines_of_isContained isPlainName_timeline h bucket here job.id,
        confines_of_isContained isPlainName_video h bucket here job.id⟩
    apart := by
      intro job huser root name other hname hother hne key hkey
      refine not_prefix_of_other hname hother hne ?_
      rcases List.mem_pair.mp hkey with rfl | rfl
      · exact (hinput job huser _).last
      · exact (houtput job huser _).last
    writes := by
      rintro submission rfl bucket text
      rw [Submission.inputKey_eq]
      exact (htimeline bucket submission.id).keepsInside_writeKey text
    reads := fun job huser bucket => (hinput job huser bucket).keepsInside_readKey
    uploads := by
      intro job huser config bucket
      refine (houtput job huser bucket).keepsInside_upload ?_
      rw [name_outputPath]
      exact isPlainName_video
    signs := fun job huser bucket => (houtput job huser bucket).keepsInside_downloadUrl }

/-- The files of a user's jobs stay inside of the buckets exactly if the user id is contained. -/
theorem confinesJobs_iff (userId : String) : ConfinesJobs userId ↔ isContained userId = true := by
  refine ⟨fun h => ?_, confinesJobs_of_isContained⟩
  let job : Job :=
    { id := ⟨0⟩, userId, projectId := "", width := .int 0, height := .int 0, fps := .int 0
      duration := .zero, createdAt := 0 }
  refine (forall_confines_iff isPlainName_timeline job.id).mp fun bucket here => ?_
  have hinput := (h.keys job rfl bucket here).1
  rwa [Storage.inputKey_eq] at hinput

/-! ## A user who reaches into another bucket -/

def sampleNeighbour : String := "../exports"

/-- One of two buckets of a storage root; the other one is `exports`. -/
def sampleBucket : Bucket :=
  Bucket.of ⟨.absolute, ["storage"]⟩ "export_data"

def sampleNeighbourKey : String :=
  jobKey sampleNeighbour ⟨1⟩ "timeline.json"

/-- A place in the other bucket. -/
def sampleNeighbourPlace : Place :=
  ["storage", "exports", JobId.text ⟨1⟩, "timeline.json"]

/-- The files after some bytes were written for the key. -/
def sampleNeighbourFiles (bytes : List UInt8) : Except Fault Unit × Tree :=
  (sampleBucket.prepare sampleNeighbourKey >>= fun path => Call.write path bytes).run.run {}

theorem files_sampleNeighbour (bytes : List UInt8) :
    sampleNeighbourFiles bytes = (.ok (), (sampleNeighbourFiles bytes).2) ∧
      (sampleNeighbourFiles bytes).2.entryAt sampleNeighbourPlace = some (.file bytes) :=
  ⟨by rfl, by rfl⟩

theorem not_confines_sampleNeighbour : ¬ sampleBucket.Confines [] sampleNeighbourKey := by
  rintro ⟨inner, -, hplace⟩
  have hkey : (sampleBucket.path sampleNeighbourKey).placeFrom [] = sampleNeighbourPlace := by
    decide +kernel
  have hbase : sampleBucket.base.placeFrom [] = ["storage", "export_data"] := by
    decide +kernel
  rw [hkey, hbase, sampleNeighbourPlace] at hplace
  simp at hplace

/-- The timeline of this user is accepted, and it is written into the other bucket. -/
theorem escapes_sampleNeighbour : ∃ request text submission,
    checkExportRequest .byModel (.obj [("user_id", .str sampleNeighbour),
      ("project_id", .str "p"), ("timeline_data", sampleTimeline "it's" .null)]) =
        .valid request ∧
      Submission.start ⟨1⟩ request = .ok submission ∧
      ¬ sampleBucket.Confines [] submission.inputKey ∧
      request.timeline.stored = .ok text ∧
      (submission.step sampleBucket (.documentWritten .genuine) {}).1.files.entryAt
        sampleNeighbourPlace = some (.file (Text.Utf8.encode text)) := by
  have htests : (checkDocument .byModel (sampleTimeline "it's" .null)).all (fun document =>
      (transientMedium? document).isNone && document.stored.isOk) = true := by
    decide +kernel
  obtain ⟨document, hvalid, htest⟩ := Checked.all_eq_true.mp htests
  obtain ⟨hresolved, hstorable⟩ := Bool.and_eq_true_iff.mp htest
  obtain ⟨text, hstored⟩ := exists_of_isOk hstorable
  let request : ExportRequest := ⟨sampleNeighbour, "p", document⟩
  let submission : Submission := { id := ⟨1⟩, request }
  have hkey : submission.inputKey = sampleNeighbourKey := Submission.inputKey_eq submission
  obtain ⟨hwritten, hentry⟩ := files_sampleNeighbour (Text.Utf8.encode text)
  have hstart : Submission.start ⟨1⟩ request = .ok submission := by
    rw [Submission.start, Option.isNone_iff_eq_none.mp hresolved]
  have hwrite : (sampleBucket.prepare submission.inputKey >>= fun path =>
      Call.write path (Text.Utf8.encode text)).run.run {} = _ :=
    (congrArg (fun key => (sampleBucket.prepare key >>= fun path =>
      Call.write path (Text.Utf8.encode text)).run.run {}) hkey).trans hwritten
  have hstep : submission.step sampleBucket (.documentWritten .genuine) {} = _ :=
    @Submission.writeDocument_genuine sampleBucket {} submission text _ hstored hwrite
  refine ⟨request, text, submission, checkExportRequest_of_valid hvalid _ _, hstart, ?_, hstored,
    ?_⟩
  · rw [hkey]
    exact not_confines_sampleNeighbour
  · rw [hstep]
    exact hentry

end Montage.Worker
