/-
  Montage.Proofs.Jobs.Queue

  Leaving the queue.  No change of the table puts a job back into the queue, and a claim
  that succeeds takes its job out of it; so a job is claimed once.
-/
import Montage.Jobs.Store

namespace Montage.Jobs

open Montage.Number

/-! ## Changes of a row -/

/-- A row with new progress. -/
def Job.reported (progress : Scalar) (job : Job) : Job :=
  { job with progress }

/-- A row that is completed. -/
def Job.finished (downloadUrl : Option String) (job : Job) : Job :=
  { job with status := .completed, progress := .int 100, downloadUrl, completed := true }

/-- A row that has failed. -/
def Job.failed (errorMessage : Option String) (job : Job) : Job :=
  { job with status := .failed, errorMessage, completed := true }

/-- A row that a worker has claimed. -/
def Job.taken (job : Job) : Job :=
  { job with status := .processing, progress := .int 0 }

namespace Store

/-! ## Jobs that have left the queue -/

/-- Whether a job is in the table and no longer queued. -/
def HasLeft (id : JobId) (store : Store) : Prop :=
  ∃ job, store.find? id = some job ∧ job.status ≠ .queued

/-- Jobs that have left the queue stay out of it. -/
def Advances (before after : Store) : Prop :=
  ∀ id, before.HasLeft id → after.HasLeft id

theorem Advances.refl (store : Store) : Advances store store :=
  fun _ hleft => hleft

theorem Advances.trans {before middle after : Store} (hfirst : Advances before middle)
    (hsecond : Advances middle after) : Advances before after :=
  fun id hleft => hsecond id (hfirst id hleft)

theorem advances_update {change : Job → Job} (hid : ∀ job, (change job).id = job.id)
    (hstatus : ∀ job, job.status ≠ .queued → (change job).status ≠ .queued) (id : JobId)
    (store : Store) : Advances store (store.update id change) := by
  rintro other ⟨job, hfind, hleft⟩
  by_cases heq : id = other
  · subst heq
    refine ⟨change job, ?_, hstatus job hleft⟩
    rw [find?_update_self id change hid, hfind]
    rfl
  · refine ⟨job, ?_, hleft⟩
    rw [find?_update_ne heq change hid, hfind]

theorem insert_eq_ok {id : JobId} {createdAt : Int} {draft : Draft} {store after : Store}
    {job : Job} (h : store.insert id createdAt draft = .ok (job, after)) :
    draft.row id createdAt = .ok job ∧ store.find? id = none ∧ after = ⟨store.jobs ++ [job]⟩ := by
  cases hrow : draft.row id createdAt with
  | error fault => simp [insert, hrow, bind, Except.bind] at h
  | ok row =>
      cases hfind : store.find? id with
      | some found => simp [insert, hrow, hfind, bind, Except.bind, throw, throwThe,
          MonadExceptOf.throw] at h
      | none =>
          simp only [insert, hrow, hfind, bind, Except.bind, pure, Except.pure, Except.ok.injEq,
            Prod.mk.injEq] at h
          obtain ⟨rfl, rfl⟩ := h
          exact ⟨rfl, rfl, rfl⟩

theorem advances_insert {id : JobId} {createdAt : Int} {draft : Draft} {store after : Store}
    {job : Job} (h : store.insert id createdAt draft = .ok (job, after)) :
    Advances store after := by
  obtain ⟨-, -, rfl⟩ := insert_eq_ok h
  rintro other ⟨found, hfind, hleft⟩
  refine ⟨found, ?_, hleft⟩
  rw [find?, List.find?_append]
  rw [find?] at hfind
  rw [hfind]
  rfl

/-! ## The statements -/

theorem setProgress_eq_ok {id : JobId} {progress : Json} {store after : Store}
    (h : store.setProgress id progress = .ok after) :
    ∃ value, Cell.number progress = .ok (some value) ∧
      after = store.update id (Job.reported value) := by
  cases hcell : Cell.number progress with
  | error fault => simp [setProgress, hcell, bind, Except.bind] at h
  | ok value? =>
      cases value? with
      | none => simp [setProgress, hcell, bind, Except.bind, throw, throwThe,
          MonadExceptOf.throw] at h
      | some value =>
          simp only [setProgress, hcell, bind, Except.bind, pure, Except.pure, Except.ok.injEq] at h
          exact ⟨value, rfl, h.symm⟩

theorem markCompleted_eq_ok {id : JobId} {url : Json} {store after : Store}
    (h : store.markCompleted id url = .ok after) :
    ∃ downloadUrl, Cell.text url = .ok downloadUrl ∧
      after = store.update id (Job.finished downloadUrl) := by
  cases hcell : Cell.text url with
  | error fault => simp [markCompleted, hcell, bind, Except.bind] at h
  | ok downloadUrl =>
      simp only [markCompleted, hcell, bind, Except.bind, pure, Except.pure, Except.ok.injEq] at h
      exact ⟨downloadUrl, rfl, h.symm⟩

theorem markFailed_eq_ok {id : JobId} {message : Json} {store after : Store}
    (h : store.markFailed id message = .ok after) :
    ∃ errorMessage, Cell.text message = .ok errorMessage ∧
      after = store.update id (Job.failed errorMessage) := by
  cases hcell : Cell.text message with
  | error fault => simp [markFailed, hcell, bind, Except.bind] at h
  | ok errorMessage =>
      simp only [markFailed, hcell, bind, Except.bind, pure, Except.pure, Except.ok.injEq] at h
      exact ⟨errorMessage, rfl, h.symm⟩

theorem advances_setProgress {id : JobId} {progress : Json} {store after : Store}
    (h : store.setProgress id progress = .ok after) : Advances store after := by
  obtain ⟨value, -, rfl⟩ := setProgress_eq_ok h
  apply advances_update
  · intro job
    rfl
  · intro job hleft
    exact hleft

theorem advances_markCompleted {id : JobId} {url : Json} {store after : Store}
    (h : store.markCompleted id url = .ok after) : Advances store after := by
  obtain ⟨downloadUrl, -, rfl⟩ := markCompleted_eq_ok h
  apply advances_update
  · intro job
    rfl
  · intro job _
    exact nofun

theorem advances_markFailed {id : JobId} {message : Json} {store after : Store}
    (h : store.markFailed id message = .ok after) : Advances store after := by
  obtain ⟨errorMessage, -, rfl⟩ := markFailed_eq_ok h
  apply advances_update
  · intro job
    rfl
  · intro job _
    exact nofun

/-! ## Claims -/

theorem claim_cases (id : JobId) (store : Store) :
    (∃ job, store.find? id = some job ∧ job.status = .queued ∧
      store.claim id = (true, store.update id Job.taken)) ∨
    store.claim id = (false, store) := by
  cases hfind : store.find? id with
  | none => exact .inr (by simp [claim, hfind])
  | some job =>
      by_cases hqueued : job.status = .queued
      · exact .inl ⟨job, rfl, hqueued, by simp only [claim, hfind, hqueued, if_true]; rfl⟩
      · exact .inr (by simp [claim, hfind, hqueued])

theorem advances_claim (id : JobId) (store : Store) : Advances store (store.claim id).2 := by
  rcases claim_cases id store with ⟨job, -, -, hclaim⟩ | hclaim
  · rw [hclaim]
    apply advances_update
    · intro job
      rfl
    · intro job _
      exact nofun
  · rw [hclaim]
    exact Advances.refl store

/-- A claim that succeeds finds its job in the queue and takes it out. -/
theorem hasLeft_of_claim {id : JobId} {store : Store} (h : (store.claim id).1 = true) :
    ¬ store.HasLeft id ∧ (store.claim id).2.HasLeft id := by
  rcases claim_cases id store with ⟨job, hfind, hqueued, hclaim⟩ | hclaim
  · constructor
    · rintro ⟨other, hother, hleft⟩
      obtain rfl : job = other := Option.some.inj (hfind.symm.trans hother)
      exact hleft hqueued
    · rw [hclaim]
      refine ⟨job.taken, ?_, nofun⟩
      rw [find?_update_self id Job.taken (fun _ => rfl), hfind]
      rfl
  · rw [hclaim] at h
    cases h

end Store

end Montage.Jobs
