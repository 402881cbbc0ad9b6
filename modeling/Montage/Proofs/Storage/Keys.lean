/-
  Montage.Proofs.Storage.Keys

  The keys of jobs and the files under them.  Wherever the user id in a key leads, the path
  ends in the id of the job and the name of the file, so different jobs and different files
  never share a place.
-/
import Montage.Jobs.Row
import Montage.Proofs.File.Names
import Montage.Proofs.File.Places
import Montage.Proofs.Json.Numerals
import Montage.Storage.Local

namespace Montage.Jobs

open Montage.File Montage.Number

/-! ## Ids -/

/-- What stands in front of the number of a job in the text of its id. -/
def JobId.front : List Char := "00000000-0000-4000-8000-".toList

theorem JobId.toList_text (id : JobId) : id.text.toList =
    front ++ (List.replicate (12 - id.number.repr.length) '0' ++ id.number.repr.toList) := by
  have hzeros : (Decimal.padLeft 12 id.number.repr).toList =
      List.replicate (12 - id.number.repr.length) '0' ++ id.number.repr.toList := by
    rw [Decimal.padLeft, String.toList_append, String.toList_ofList]
  have htext : id.text.toList = front ++ (Decimal.padLeft 12 id.number.repr).toList :=
    String.toList_append
  rw [htext, hzeros]

/-- Different jobs have different ids in text. -/
theorem JobId.text_injective {id other : JobId} (h : id.text = other.text) : id = other := by
  have hchars := congrArg String.toList h
  rw [toList_text, toList_text, List.append_cancel_left_eq] at hchars
  have hvalue := congrArg Json.digitsValue hchars
  rw [Json.digitsValue_zeros_append _ (Json.allDigits_repr _),
    Json.digitsValue_zeros_append _ (Json.allDigits_repr _),
    Json.digitsValue_repr, Json.digitsValue_repr] at hvalue
  cases id
  cases other
  exact congrArg JobId.mk hvalue

theorem JobId.hyphen_mem_text (id : JobId) : '-' ∈ id.text.toList := by
  rw [toList_text]
  exact List.mem_append_left _ (by decide)

theorem JobId.isPlainName_text (id : JobId) : Path.IsPlainName id.text := by
  have hslash : '/' ∉ id.text.toList := by
    rw [toList_text, List.mem_append, List.mem_append, not_or, not_or]
    refine ⟨by decide, fun hzeros => ?_, fun hdigits => ?_⟩
    · cases List.eq_of_mem_replicate hzeros
    · cases Json.allDigits_repr _ _ hdigits
  exact .of_hyphen hslash id.hyphen_mem_text

end Montage.Jobs

namespace Montage.Storage

open Montage.File Montage.Jobs

/-! ## Keys -/

/-- The key of a file of a job of a user. -/
def jobKey (userId : String) (id : JobId) (file : String) : String :=
  userId ++ "/" ++ id.text ++ "/" ++ file

theorem inputKey_eq (job : Job) : job.inputKey = jobKey job.userId job.id "timeline.json" :=
  (@String.append_assoc (job.userId ++ "/" ++ job.id.text) "/" "timeline.json").symm

theorem outputKey_eq (job : Job) : job.outputKey = jobKey job.userId job.id "export.mp4" :=
  (@String.append_assoc (job.userId ++ "/" ++ job.id.text) "/" "export.mp4").symm

theorem names_jobKey (userId : String) (id : JobId) {file : String}
    (hfile : Path.IsPlainName file) : (Path.ofText (jobKey userId id file)).names =
      (Path.ofText userId).names ++ [id.text, file] := by
  rw [jobKey, Path.names_append_slash, Path.names_append_slash,
    Path.ofText_of_plain id.isPlainName_text, Path.ofText_of_plain hfile, List.append_assoc]
  rfl

/-- The place of a file of a job, which ends in the id of the job and the name of the file. -/
theorem exists_reach_jobKey (bucket : Bucket) (userId : String) (id : JobId) {file : String}
    (hfile : Path.IsPlainName file) : ∃ init,
      Place.reach [] (bucket.path (jobKey userId id file)).names = init ++ [id.text, file] := by
  obtain ⟨init, hnames⟩ := Path.exists_names_child bucket.base (jobKey userId id file)
  refine ⟨Place.reach [] (init ++ (Path.ofText userId).names), ?_⟩
  have hsplit : init ++ ((Path.ofText userId).names ++ [id.text, file]) =
      init ++ (Path.ofText userId).names ++ [id.text] ++ [file] := by
    simp only [List.append_assoc, List.singleton_append]
  rw [Bucket.path, hnames, names_jobKey userId id hfile, hsplit,
    Place.reach_concat _ _ hfile.notUp, Place.reach_concat _ _ id.isPlainName_text.notUp,
    List.append_assoc]
  rfl

namespace Bucket

open Call

variable {α : Type} {place : Place} {bucket : Bucket}
  {change : Option Entry → Option Entry → Prop}

/-! ## Calls on a bucket -/

theorem prepare_bind (key : String) (next : Path → Call α) : (bucket.prepare key >>= next) =
    (makeDirectories (bucket.path key).parent >>= fun _ => next (bucket.path key)) := by
  rw [prepare, bind_assoc]
  simp only [pure_bind]

section

variable [IsPreorder (Option Entry) change]

/-- For a key, directories are made on the way to it. -/
theorem keepsTo_prepare_bind {key : String} {next : Path → Call α}
    (hway : place ∈ Place.passed [] (bucket.path key).names → change none (some .directory))
    (hnext : KeepsTo change place (next (bucket.path key))) :
    KeepsTo change place (bucket.prepare key >>= next) := by
  rw [prepare_bind]
  refine keepsTo_bind ?_ fun _ => hnext
  rcases List.eq_nil_or_concat (bucket.path key).names with hnil | ⟨init, name, hinit⟩
  -- a path without names leads to the root
  · by_cases hroot : place = []
    · subst hroot
      exact keepsTo_root _
    · refine keepsTo_makeDirectories fun hparent => ?_
      rw [Path.parent, hnil] at hparent
      rcases hparent with hpassed | hreach
      · cases hpassed
      · exact absurd hreach.symm hroot
  · rw [List.concat_eq_append] at hinit
    refine keepsTo_makeDirectories fun hparent => hway ?_
    rw [Path.parent, hinit, List.dropLast_concat] at hparent
    rw [hinit, Place.passed_concat, List.mem_append, List.mem_singleton]
    exact hparent.imp_right Eq.symm

theorem keepsTo_readText {key : String}
    (hway : place ∈ Place.passed [] (bucket.path key).names → change none (some .directory)) :
    KeepsTo change place (bucket.readText key) :=
  keepsTo_prepare_bind hway (looks_readText _).keepsTo

theorem keepsTo_downloadUrl {key : String}
    (hway : place ∈ Place.passed [] (bucket.path key).names → change none (some .directory)) :
    KeepsTo change place (bucket.downloadUrl key) := by
  refine keepsTo_prepare_bind hway ?_
  dsimp only
  split
  · exact (looks_throw _).keepsTo
  · exact (looks_pure _).keepsTo

end

/-- A text with a form in bytes is written in that form. -/
theorem writeText_eq {text : String} (h : Text.utf8Refusal? text.toList = none) (key : String) :
    bucket.writeText key text =
      bucket.prepare key >>= fun path => Call.write path (Text.Utf8.encode text) := by
  simp only [writeText, Call.writeText, h]

section

variable [IsPreorder (Option Entry) change]

/-- A text is written to the place of its key. -/
theorem keepsTo_writeText {key : String}
    (hway : place ∈ Place.passed [] (bucket.path key).names → change none (some .directory))
    (hfile : Place.reach [] (bucket.path key).names = place →
      ∀ before bytes, before ≠ some .directory → change before (some (.file bytes)))
    (text : String) : KeepsTo change place (bucket.writeText key text) := by
  have hwrite : ∀ bytes, KeepsTo change place (Call.write (bucket.path key) bytes) :=
    fun bytes => keepsTo_write fun hreach before => hfile hreach before bytes
  refine keepsTo_prepare_bind hway ?_
  unfold Call.writeText
  split
  · exact hwrite _
  · exact keepsTo_bind (hwrite _) fun _ => (looks_throw _).keepsTo

theorem keepsTo_copy {source target : Path}
    (hfile : Place.reach [] target.names = place →
      ∀ before bytes, before ≠ some .directory → change before (some (.file bytes))) :
    KeepsTo change place (do
      if Call.hasNull target then throw Call.nullFault
      let bytes ← Call.read source
      Call.write target bytes) := by
  have hcopy : KeepsTo change place (Call.read source >>= Call.write target) :=
    keepsTo_bind (looks_read source).keepsTo fun bytes =>
      keepsTo_write fun hreach before => hfile hreach before bytes
  dsimp only
  split
  · exact keepsTo_bind (looks_throw _).keepsTo fun _ => hcopy
  · exact hcopy

/-- A file is copied to the place of its key, or into the directory there. -/
theorem keepsTo_upload {source : Path} {key : String}
    (hway : place ∈ Place.passed [] (bucket.path key).names → change none (some .directory))
    (hfile : Place.reach [] (bucket.path key).names = place ∨
      Place.reach [] ((bucket.path key).child source.name).names = place →
        ∀ before bytes, before ≠ some .directory → change before (some (.file bytes))) :
    KeepsTo change place (bucket.upload source key) := by
  refine keepsTo_prepare_bind hway ?_
  refine keepsTo_bind ?_ fun isDirectory => ?_
  · refine keepsTo_tryCatch (looks_isDirectory _).keepsTo fun _ => ?_
    exact (looks_pure _).keepsTo
  · dsimp only
    cases isDirectory with
    | true => exact keepsTo_copy fun hreach => hfile (.inr hreach)
    | false => exact keepsTo_copy fun hreach => hfile (.inl hreach)

end

/-- A text that was written can be read. -/
theorem holds_of_writeText {key text : String} {tree after : Tree}
    (h : (bucket.writeText key text).run.run tree = (.ok (), after)) :
    after.Holds (bucket.path key) (Text.Utf8.encode text) := by
  rw [writeText, prepare_bind, run_bind] at h
  split at h
  next made hmade =>
    unfold Call.writeText at h
    split at h
    · exact Tree.holds_of_write h
    next message =>
      -- a text without a form in bytes leaves an empty file, and fails
      rw [run_bind] at h
      split at h
      · cases h
      · cases h
  next => cases h

end Bucket

end Montage.Storage
