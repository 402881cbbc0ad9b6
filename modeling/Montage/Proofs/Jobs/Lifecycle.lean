/-
  Montage.Proofs.Jobs.Lifecycle

  What the columns of a row say together at each status, and the changes that keep it.
  The changes themselves look at no column, so each of them keeps it only from the
  statuses at which it is made.
-/
import Mathlib.Data.List.Nodup
import Montage.Proofs.Fault
import Montage.Proofs.Jobs.Queue

namespace Montage.Jobs

open Montage.Number

/-! ## Rows -/

/-- The progress of a job that has not been completed, in percent. -/
def IsPartial (progress : Scalar) : Prop :=
  ∃ percent : Int, progress = .int percent ∧ 0 ≤ percent ∧ percent ≤ 99

namespace Job

/-- Nothing is recorded about the end of a job. -/
structure Unsettled (job : Job) : Prop where
  downloadUrl : job.downloadUrl = none
  errorMessage : job.errorMessage = none
  completed : job.completed = false

theorem unsettled_iff {job : Job} :
    job.Unsettled ↔ job.downloadUrl = none ∧ job.errorMessage = none ∧ job.completed = false :=
  ⟨fun h => ⟨h.downloadUrl, h.errorMessage, h.completed⟩, fun ⟨h, h', h''⟩ => ⟨h, h', h''⟩⟩

/-- What the columns of a row say at its status. -/
def Consistent (job : Job) : Prop :=
  match job.status with
  | .queued => job.progress = .int 0 ∧ job.Unsettled
  | .processing => IsPartial job.progress ∧ job.Unsettled
  | .completed =>
    job.progress = .int 100 ∧ (∃ url, job.downloadUrl = some url) ∧ job.errorMessage = none ∧
      job.completed = true
  | .failed =>
    IsPartial job.progress ∧ job.downloadUrl = none ∧ job.completed = true ∧
      ∃ message, job.errorMessage = some message ∧ IsCoded message

theorem consistent_queued {job : Job} (h : job.status = .queued) :
    job.Consistent ↔ job.progress = .int 0 ∧ job.Unsettled := by
  rw [Consistent, h]

theorem consistent_processing {job : Job} (h : job.status = .processing) :
    job.Consistent ↔ IsPartial job.progress ∧ job.Unsettled := by
  rw [Consistent, h]

/-! ## Changes of a row -/

theorem consistent_of_row {id : JobId} {createdAt : Int} {draft : Draft} {job : Job}
    (h : draft.row id createdAt = .ok job) :
    job.id = id ∧ job.status = .queued ∧ job.Consistent := by
  unfold Draft.row at h
  obtain ⟨userId, -, h⟩ := exists_of_bind_eq_ok h
  obtain ⟨projectId, -, h⟩ := exists_of_bind_eq_ok h
  obtain ⟨width, -, h⟩ := exists_of_bind_eq_ok h
  obtain ⟨height, -, h⟩ := exists_of_bind_eq_ok h
  obtain ⟨fps, -, h⟩ := exists_of_bind_eq_ok h
  obtain ⟨duration, -, h⟩ := exists_of_bind_eq_ok h
  split at h
  · cases h
    exact ⟨rfl, rfl, rfl, rfl, rfl, rfl⟩
  · cases h

theorem consistent_taken {job : Job} (hqueued : job.status = .queued) (h : job.Consistent) :
    job.taken.Consistent := by
  obtain ⟨-, hunsettled⟩ := (consistent_queued hqueued).mp h
  refine (consistent_processing rfl).mpr ⟨⟨0, rfl, ?_, ?_⟩, ?_⟩
  · decide
  · decide
  · exact ⟨hunsettled.downloadUrl, hunsettled.errorMessage, hunsettled.completed⟩

variable {job : Job} (hprocessing : job.status = .processing)
include hprocessing

theorem consistent_reported {progress : Scalar} (hprogress : IsPartial progress)
    (h : job.Consistent) : (job.reported progress).Consistent := by
  obtain ⟨-, hunsettled⟩ := (consistent_processing hprocessing).mp h
  have hstatus : (job.reported progress).status = .processing := hprocessing
  refine (consistent_processing hstatus).mpr ⟨hprogress, ?_⟩
  exact ⟨hunsettled.downloadUrl, hunsettled.errorMessage, hunsettled.completed⟩

theorem consistent_finished (url : String) (h : job.Consistent) :
    (job.finished (some url)).Consistent := by
  obtain ⟨-, hunsettled⟩ := (consistent_processing hprocessing).mp h
  exact ⟨rfl, ⟨url, rfl⟩, hunsettled.errorMessage, rfl⟩

theorem consistent_failed {message : String} (hcoded : IsCoded message) (h : job.Consistent) :
    (job.failed (some message)).Consistent := by
  obtain ⟨hprogress, hunsettled⟩ := (consistent_processing hprocessing).mp h
  exact ⟨hprogress, hunsettled.downloadUrl, rfl, message, rfl, hcoded⟩

end Job

/-! ## Values that are written -/

theorem Cell.number_int {i : Int} {value : Scalar}
    (h : Cell.number (.int i) = .ok (some value)) : value = .int i := by
  have hcell : (Cell.integer i).map (fun i => some (Scalar.int i)) = .ok (some value) := h
  unfold Cell.integer at hcell
  split at hcell
  · cases hcell
    rfl
  · cases hcell

theorem Cell.text_str {text : String} {value : Option String}
    (h : Cell.text (.str text) = .ok value) : value = some text := by
  cases hrefusal : Text.utf8Refusal? text.toList with
  | some reason => simp [Cell.text, hrefusal] at h
  | none => simpa [Cell.text, hrefusal] using h.symm

theorem Cell.isForeign_of_number {value : Json} {fault : Fault}
    (h : Cell.number value = .error fault) : fault.IsForeign := by
  unfold Cell.number at h
  split at h
  · cases h
  · cases h
  · have hinteger := error_of_map_eq_error h
    unfold Cell.integer at hinteger
    split at hinteger
    · cases hinteger
    · cases hinteger
      nofun
  · cases h
  · cases h
    nofun

/-- A column of texts refuses a value with a fault that is no failure. -/
theorem Cell.isForeign_of_text {value : Json} {fault : Fault}
    (h : Cell.text value = .error fault) : fault.IsForeign := by
  unfold Cell.text at h
  split at h
  · split at h
    · cases h
      nofun
    · cases h
  · cases h
  · rcases error_of_bind_eq_error h with hnumber | ⟨number, -, hend⟩
    · exact Cell.isForeign_of_number hnumber
    · split at hend <;> cases hend

/-! ## Tables -/

namespace Store

/-- A table whose rows have ids of their own and are consistent. -/
structure Consistent (store : Store) : Prop where
  distinct : (store.jobs.map Job.id).Nodup
  rows : ∀ job ∈ store.jobs, job.Consistent

/-- Whether a job is in the table and being worked on. -/
def IsProcessing (id : JobId) (store : Store) : Prop :=
  ∃ job, store.find? id = some job ∧ job.status = .processing

theorem mem_of_find? {id : JobId} {store : Store} {job : Job} (h : store.find? id = some job) :
    job ∈ store.jobs ∧ job.id = id := by
  refine ⟨List.mem_of_find?_eq_some h, ?_⟩
  have hid := List.find?_some h
  simpa using hid

/-- With distinct ids, a row is the one that is found under its id. -/
theorem find?_of_distinct {store : Store} (h : (store.jobs.map Job.id).Nodup) {job : Job}
    (hmem : job ∈ store.jobs) : store.find? job.id = some job := by
  cases hfind : store.find? job.id with
  | none =>
      have hnone := List.find?_eq_none.mp hfind job hmem
      simp at hnone
  | some found =>
      obtain ⟨hfound, hid⟩ := mem_of_find? hfind
      rw [List.inj_on_of_nodup_map h hfound hmem hid]

theorem Consistent.update {store : Store} (h : store.Consistent) {id : JobId} {change : Job → Job}
    (hid : ∀ job, (change job).id = job.id)
    (hchange : ∀ job, store.find? id = some job → job.Consistent → (change job).Consistent) :
    (store.update id change).Consistent := by
  refine ⟨?_, fun row hrow => ?_⟩
  · rw [map_id_update id change hid]
    exact h.distinct
  · obtain ⟨job, hmem, rfl⟩ := List.mem_map.mp hrow
    split
    next heq => exact hchange job (heq ▸ find?_of_distinct h.distinct hmem) (h.rows job hmem)
    next => exact h.rows job hmem

theorem Consistent.insert {store after : Store} (h : store.Consistent) {id : JobId}
    {createdAt : Int} {draft : Draft} {job : Job}
    (hinsert : store.insert id createdAt draft = .ok (job, after)) : after.Consistent := by
  obtain ⟨hrow, hnew, rfl⟩ := insert_eq_ok hinsert
  obtain ⟨rfl, -, hconsistent⟩ := Job.consistent_of_row hrow
  have hfresh : ∀ other ∈ store.jobs, other.id ≠ job.id := by
    intro other hother heq
    have hnone := List.find?_eq_none.mp hnew other hother
    simp [heq] at hnone
  refine ⟨?_, fun row hmem => ?_⟩
  · rw [List.map_append, List.nodup_append]
    refine ⟨h.distinct, List.nodup_singleton _, ?_⟩
    intro id hid other hother heq
    obtain ⟨row, hmem, rfl⟩ := List.mem_map.mp hid
    exact hfresh row hmem (heq.trans (List.mem_singleton.mp hother))
  · rcases List.mem_append.mp hmem with hold | hlast
    · exact h.rows row hold
    · exact List.mem_singleton.mp hlast ▸ hconsistent

/-! ## Jobs that are worked on -/

/-- A consistent table in which different jobs are worked on. -/
structure Busy (store : Store) (jobs : List JobId) : Prop where
  consistent : store.Consistent
  apart : jobs.Nodup
  processing : ∀ id ∈ jobs, store.IsProcessing id

/-- What a step of the work on a job makes of the table; the first argument says whether
    the work goes on. -/
inductive WorkStep (id : JobId) (store : Store) : Bool → Store → Prop
  | idle (goesOn : Bool) : WorkStep id store goesOn store
  | reported (goesOn : Bool) {progress : Scalar} (h : IsPartial progress) :
      WorkStep id store goesOn (store.update id (Job.reported progress))
  | finished (url : String) : WorkStep id store false (store.update id (Job.finished (some url)))
  | failed {message : String} (h : IsCoded message) :
      WorkStep id store false (store.update id (Job.failed (some message)))

section

variable {store after : Store} {id : JobId}

theorem workStep_setProgress {percent : Int} (hbounds : 0 ≤ percent ∧ percent ≤ 99)
    (h : store.setProgress id (.int percent) = .ok after) (goesOn : Bool) :
    WorkStep id store goesOn after := by
  obtain ⟨value, hcell, rfl⟩ := setProgress_eq_ok h
  obtain rfl := Cell.number_int hcell
  exact .reported goesOn ⟨percent, rfl, hbounds⟩

theorem workStep_markCompleted {url : String}
    (h : store.markCompleted id (.str url) = .ok after) : WorkStep id store false after := by
  obtain ⟨value, hcell, rfl⟩ := markCompleted_eq_ok h
  obtain rfl := Cell.text_str hcell
  exact .finished url

theorem workStep_markFailed {message : String} (hcoded : IsCoded message)
    (h : store.markFailed id (.str message) = .ok after) : WorkStep id store false after := by
  obtain ⟨value, hcell, rfl⟩ := markFailed_eq_ok h
  obtain rfl := Cell.text_str hcell
  exact .failed hcoded

/-- A url that the table does not take is refused with a fault that is no failure. -/
theorem isForeign_of_markCompleted {url : Json} {fault : Fault}
    (h : store.markCompleted id url = .error fault) : fault.IsForeign := by
  rcases error_of_bind_eq_error h with hcell | ⟨value, -, hend⟩
  · exact Cell.isForeign_of_text hcell
  · cases hend

end

theorem IsProcessing.update_ne {id other : JobId} {store : Store} (h : store.IsProcessing id)
    (hne : other ≠ id) {change : Job → Job} (hid : ∀ job, (change job).id = job.id) :
    (store.update other change).IsProcessing id := by
  obtain ⟨job, hfind, hstatus⟩ := h
  refine ⟨job, ?_, hstatus⟩
  rw [find?_update_ne hne change hid, hfind]

namespace Busy

variable {store : Store} {jobs first last : List JobId} {id : JobId}

theorem sublist {fewer : List JobId} (h : store.Busy jobs) (hsub : fewer.Sublist jobs) :
    store.Busy fewer :=
  ⟨h.consistent, h.apart.sublist hsub, fun id hid => h.processing id (hsub.subset hid)⟩

theorem not_queued (h : store.Busy jobs) (hmem : id ∈ jobs) {job : Job}
    (hfind : store.find? id = some job) : job.status ≠ .queued := by
  obtain ⟨row, hrow, hprocessing⟩ := h.processing id hmem
  obtain rfl : job = row := Option.some.inj (hfind.symm.trans hrow)
  rw [hprocessing]
  nofun

/-- One more job that is worked on. -/
theorem join (h : store.Busy (first ++ last)) (hprocessing : store.IsProcessing id)
    (hnew : id ∉ first ++ last) : store.Busy (first ++ id :: last) := by
  have hperm : (first ++ id :: last).Perm (id :: (first ++ last)) := List.perm_middle
  refine ⟨h.consistent, hperm.nodup_iff.mpr (List.nodup_cons.mpr ⟨hnew, h.apart⟩), ?_⟩
  intro other hother
  rcases List.mem_cons.mp (hperm.mem_iff.mp hother) with rfl | hold
  · exact hprocessing
  · exact h.processing other hold

theorem insert {after : Store} (h : store.Busy jobs) {createdAt : Int} {draft : Draft} {job : Job}
    (hinsert : store.insert id createdAt draft = .ok (job, after)) : after.Busy jobs := by
  refine ⟨h.consistent.insert hinsert, h.apart, fun other hother => ?_⟩
  obtain ⟨found, hfind, hstatus⟩ := h.processing other hother
  obtain ⟨-, -, rfl⟩ := insert_eq_ok hinsert
  refine ⟨found, ?_, hstatus⟩
  rw [find?, List.find?_append]
  rw [find?] at hfind
  rw [hfind]
  rfl

/-- A claim leaves the jobs alone that are worked on, whether it succeeds or not. -/
theorem claim (h : store.Busy jobs) (id : JobId) : (store.claim id).2.Busy jobs := by
  rcases claim_cases id store with ⟨job, hfind, hqueued, hclaim⟩ | hclaim
  · rw [hclaim]
    refine ⟨?_, h.apart, fun other hother => ?_⟩
    · refine h.consistent.update (fun _ => rfl) fun row hrow hconsistent => ?_
      obtain rfl : job = row := Option.some.inj (hfind.symm.trans hrow)
      exact Job.consistent_taken hqueued hconsistent
    · have hne : id ≠ other := by
        rintro rfl
        exact h.not_queued hother hfind hqueued
      exact (h.processing other hother).update_ne hne fun _ => rfl
  · rw [hclaim]
    exact h

/-- A job that is won was not worked on before. -/
theorem won (h : store.Busy (first ++ last)) (hclaim : (store.claim id).1 = true) :
    (store.claim id).2.Busy (first ++ id :: last) := by
  have hafter := h.claim id
  rcases claim_cases id store with ⟨job, hfind, hqueued, hcase⟩ | hcase
  · refine hafter.join ⟨job.taken, ?_, rfl⟩ fun hmem => ?_
    · rw [hcase, find?_update_self id Job.taken (fun _ => rfl), hfind]
      rfl
    · exact h.not_queued hmem hfind hqueued
  · rw [hcase] at hclaim
    cases hclaim

/-- A change of the row of a job that is worked on; what becomes of this job is another
    matter. -/
theorem update (h : store.Busy (first ++ id :: last)) {change : Job → Job}
    (hid : ∀ job, (change job).id = job.id)
    (hchange : ∀ job, job.status = .processing → job.Consistent → (change job).Consistent) :
    (store.update id change).Busy (first ++ last) := by
  have hperm : (first ++ id :: last).Perm (id :: (first ++ last)) := List.perm_middle
  obtain ⟨hother, hapart⟩ := List.nodup_cons.mp (hperm.nodup_iff.mp h.apart)
  obtain ⟨job, hfind, hprocessing⟩ := h.processing id (hperm.mem_iff.mpr List.mem_cons_self)
  refine ⟨h.consistent.update hid fun row hrow hconsistent => ?_, hapart, fun other hmem => ?_⟩
  · obtain rfl : job = row := Option.some.inj (hfind.symm.trans hrow)
    exact hchange job hprocessing hconsistent
  · have hbefore := h.processing other (hperm.mem_iff.mpr (List.mem_cons_of_mem id hmem))
    have hne : id ≠ other := fun heq => hother (heq ▸ hmem)
    exact hbefore.update_ne hne hid

/-- A step of the work on a job keeps the table consistent, and the other jobs are
    worked on as before. -/
theorem work {after : Store} {goesOn : Bool} (h : store.Busy (first ++ id :: last))
    (hstep : WorkStep id store goesOn after) :
    after.Busy (first ++ ((if goesOn then [id] else []) ++ last)) := by
  have hrest : after.Busy (first ++ last) := by
    cases hstep with
    | idle => exact h.sublist ((List.sublist_cons_self id last).append_left first)
    | reported _ hpartial =>
        exact h.update (fun _ => rfl) fun _ hstatus => Job.consistent_reported hstatus hpartial
    | finished url =>
        exact h.update (fun _ => rfl) fun _ hstatus => Job.consistent_finished hstatus url
    | failed hcoded =>
        exact h.update (fun _ => rfl) fun _ hstatus => Job.consistent_failed hstatus hcoded
  cases goesOn with
  | false => exact hrest
  | true =>
      have hperm : (first ++ id :: last).Perm (id :: (first ++ last)) := List.perm_middle
      have hnew := (List.nodup_cons.mp (hperm.nodup_iff.mp h.apart)).1
      have hbefore := h.processing id (hperm.mem_iff.mpr List.mem_cons_self)
      refine hrest.join ?_ hnew
      cases hstep with
      | idle => exact hbefore
      | @reported _ progress hpartial =>
          obtain ⟨job, hfind, hstatus⟩ := hbefore
          refine ⟨job.reported progress, ?_, hstatus⟩
          rw [find?_update_self id (Job.reported progress) (fun _ => rfl), hfind]
          rfl

end Busy

end Store

end Montage.Jobs
