/-
  Montage.Proofs.Worker.Rows

  What a row says of the request that it was made for.  Claims and the work on a job change
  its status and how far it has come, and nothing else.
-/
import Montage.Proofs.Timeline.Spans
import Montage.Proofs.Worker.History

namespace Montage.Jobs

/-! ## Rows as they were made -/

/-- The row as it was when it was made. -/
def Job.asMade (job : Job) : Job :=
  { job with
    status := .queued, progress := .int 0, downloadUrl := none, errorMessage := none
    completed := false }

namespace Store

/-- The row of a job as it was when it was made. -/
def made? (id : JobId) (store : Store) : Option Job :=
  (store.find? id).map Job.asMade

variable {id other : JobId} {store after : Store}

theorem made?_eq_none_iff : store.made? id = none ↔ store.find? id = none :=
  Option.map_eq_none_iff

theorem made?_update (id other : JobId) (change : Job → Job)
    (h : ∀ job, (change job).asMade = job.asMade) (store : Store) :
    (store.update other change).made? id = store.made? id := by
  have hid : ∀ job, (change job).id = job.id := by
    intro job
    have hsame := congrArg Job.id (h job)
    exact hsame
  unfold made?
  by_cases hother : other = id
  · subst hother
    rw [find?_update_self other change hid, Option.map_map]
    exact congrArg (Option.map · _) (funext h)
  · rw [find?_update_ne hother change hid]

theorem made?_claim (id other : JobId) (store : Store) :
    (store.claim other).2.made? id = store.made? id := by
  rcases claim_cases other store with ⟨job, -, -, hclaim⟩ | hclaim
  · rw [hclaim]
    exact made?_update id other Job.taken (fun _ => rfl) store
  · rw [hclaim]

/-- What a task writes leaves the rows as they were made. -/
theorem made?_writes {overlooked : Prop} {goesOn : Bool}
    (h : Writes overlooked other store goesOn after) (id : JobId) :
    after.made? id = store.made? id := by
  cases h with
  | idle => rfl
  | reported _ progress => exact made?_update id other (Job.reported progress) (fun _ => rfl) store
  | finished _ url => exact made?_update id other (Job.finished url) (fun _ => rfl) store
  | failed message => exact made?_update id other (Job.failed message) (fun _ => rfl) store

/-- A row that is added is found under its own id. -/
theorem made?_insert {createdAt : Int} {draft : Draft} {job : Job}
    (h : store.insert other createdAt draft = .ok (job, after)) (id : JobId) :
    after.made? id = if id = other then some job.asMade else store.made? id := by
  obtain ⟨hrow, hnew, rfl⟩ := insert_eq_ok h
  obtain ⟨hid, -, -⟩ := Job.consistent_of_row hrow
  have hafter : (⟨store.jobs ++ [job]⟩ : Store).find? id =
      (store.find? id).or (if job.id = id then some job else none) := by
    rw [find?, List.find?_append, find?]
    by_cases hsame : job.id = id <;> simp [hsame]
  rw [made?, made?, hafter, hid]
  by_cases hsame : id = other
  · subst hsame
    rw [hnew, if_pos rfl, if_pos rfl]
    rfl
  · rw [if_neg hsame, if_neg (Ne.symm hsame), Option.or_none]

end Store

/-- A double in its column, where zero has no sign and a NaN is nothing. -/
theorem Cell.real_num (x : Number.Binary64) : Cell.real (.num (.real x)) =
    .ok (if x = .nan then none else some (if x.eq .zero then .zero else x)) := by
  cases x <;> rfl

end Montage.Jobs

namespace Montage.Worker

open Montage.Api Montage.Jobs Montage.Number Montage.Timeline

theorem Statement.made?_run (statement : Statement) (id : JobId) (world : World) :
    (statement.run world).store.made? id = world.store.made? id := by
  have hchange : ∀ change : Store → Except Fault Store,
      (∀ after, change world.store = .ok after → after.made? id = world.store.made? id) →
        (world.change change).2.store.made? id = world.store.made? id := by
    intro change h
    cases hchanged : change world.store with
    | ok after =>
        rw [World.change_of_ok hchanged]
        exact h after hchanged
    | error fault => rw [World.change_of_error hchanged]
  cases statement with
  | claim other => exact Store.made?_claim id other world.store
  | setProgress other progress =>
      refine hchange _ fun after hset => ?_
      obtain ⟨value, -, rfl⟩ := Store.setProgress_eq_ok hset
      exact Store.made?_update id other (Job.reported value) (fun _ => rfl) world.store
  | markCompleted other url =>
      refine hchange _ fun after hmark => ?_
      obtain ⟨value, -, rfl⟩ := Store.markCompleted_eq_ok hmark
      exact Store.made?_update id other (Job.finished value) (fun _ => rfl) world.store
  | markFailed other message =>
      refine hchange _ fun after hmark => ?_
      obtain ⟨value, -, rfl⟩ := Store.markFailed_eq_ok hmark
      exact Store.made?_update id other (Job.failed value) (fun _ => rfl) world.store

/-! ## Rows of requests -/

/-- Whether a row says what a request asks for. -/
structure IsRowOf (request : ExportRequest) (id : JobId) (row : Job) : Prop where
  id : row.id = id
  userId : row.userId = request.userId
  projectId : row.projectId = request.projectId
  width : row.width = .int request.timeline.project.canvas.width
  height : row.height = .int request.timeline.project.canvas.height
  fps : row.fps = .int request.timeline.project.fps
  duration : IsLatestEnd request.timeline.tracks row.duration

/-- A row says the same of a request however far its job has come. -/
theorem IsRowOf.of_asMade {request : ExportRequest} {id : JobId} {row made : Job}
    (h : IsRowOf request id made) (hmade : row.asMade = made) : IsRowOf request id row := by
  subst hmade
  exact ⟨h.id, h.userId, h.projectId, h.width, h.height, h.fps, h.duration⟩

/-- A length in the column for it; a NaN has no place there. -/
theorem isLatestEnd_of_cell {tracks : List Track} {time : Binary64}
    (h : Cell.real (.num (.real (duration tracks))) = .ok (some time)) :
    IsLatestEnd tracks time := by
  rw [Cell.real_num] at h
  split at h
  · cases h
  next hnumber =>
    have hlatest := isLatestEnd_duration hnumber
    cases h
    split
    next hzero => exact hlatest.zero hzero
    next => exact hlatest

/-- The row that a submission adds says what its request asks for. -/
theorem Submission.isRowOf_of_draft {submission : Submission} {createdAt : Int} {job : Job}
    (h : submission.draft.row submission.id createdAt = .ok job) :
    IsRowOf submission.request submission.id job ∧ job.asMade = job := by
  unfold Draft.row at h
  obtain ⟨userId, huserId, h⟩ := exists_of_bind_eq_ok h
  obtain ⟨projectId, hprojectId, h⟩ := exists_of_bind_eq_ok h
  obtain ⟨width, hwidth, h⟩ := exists_of_bind_eq_ok h
  obtain ⟨height, hheight, h⟩ := exists_of_bind_eq_ok h
  obtain ⟨fps, hfps, h⟩ := exists_of_bind_eq_ok h
  obtain ⟨duration, hduration, h⟩ := exists_of_bind_eq_ok h
  split at h
  next =>
    cases h
    refine ⟨⟨rfl, ?_, ?_, ?_, ?_, ?_, isLatestEnd_of_cell hduration⟩, rfl⟩
    · exact Option.some.inj (Cell.text_str huserId)
    · exact Option.some.inj (Cell.text_str hprojectId)
    · exact Cell.number_int hwidth
    · exact Cell.number_int hheight
    · exact Cell.number_int hfps
  next => cases h

/-- A row that cannot be made is no failure of a job. -/
theorem Submission.isForeign_of_row {submission : Submission} {createdAt : Int}
    {fault : Fault} (h : submission.draft.row submission.id createdAt = .error fault) :
    fault.IsForeign := by
  have hnumber : ∀ i : Int, Cell.number (.int i) = .error fault → fault.IsForeign := by
    intro i hcell
    have hinteger := error_of_map_eq_error (show (Cell.integer i).map _ = .error fault from hcell)
    unfold Cell.integer at hinteger
    split at hinteger
    · cases hinteger
    · cases hinteger
      nofun
  unfold Draft.row at h
  rcases error_of_bind_eq_error h with huserId | ⟨userId, -, h⟩
  · exact Cell.isForeign_of_text huserId
  rcases error_of_bind_eq_error h with hprojectId | ⟨projectId, -, h⟩
  · exact Cell.isForeign_of_text hprojectId
  rcases error_of_bind_eq_error h with hwidth | ⟨width, -, h⟩
  · exact hnumber _ hwidth
  rcases error_of_bind_eq_error h with hheight | ⟨height, -, h⟩
  · exact hnumber _ hheight
  rcases error_of_bind_eq_error h with hfps | ⟨fps, -, h⟩
  · exact hnumber _ hfps
  rcases error_of_bind_eq_error h with hduration | ⟨duration, -, h⟩
  · have hcell := (Cell.real_num _).symm.trans hduration
    cases hcell
  · split at h
    · cases h
    · cases h
      nofun

end Montage.Worker
