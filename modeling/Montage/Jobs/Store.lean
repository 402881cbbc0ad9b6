/-
  Montage.Jobs.Store

  The table of jobs and the only ways to change it.  A claim changes a row only while
  it is queued, so of several claims of one job at most one succeeds.
-/
import Montage.Fault
import Montage.Jobs.Row

namespace Montage.Jobs

structure Store where
  jobs : List Job := []

namespace Store

/-- The row with an id. -/
def find? (id : JobId) (store : Store) : Option Job :=
  store.jobs.find? fun job => job.id = id

/-- Changes the row with an id, if there is one. -/
def update (id : JobId) (change : Job → Job) (store : Store) : Store :=
  ⟨store.jobs.map fun job => if job.id = id then change job else job⟩

/-- Adds the row of a draft; its id must be new. -/
def insert (id : JobId) (createdAt : Int) (draft : Draft) (store : Store) :
    Except Fault (Job × Store) := do
  let job ← draft.row id createdAt
  match store.find? id with
  | some _ => throw .badRow
  | none => return (job, ⟨store.jobs ++ [job]⟩)

/-- The older of two jobs, the first one if they are equally old. -/
def older (first second : Job) : Job :=
  if second.createdAt < first.createdAt then second else first

/-- The queued job that was made first. -/
def oldestQueued (store : Store) : Option Job :=
  match store.jobs.filter fun job => job.status = .queued with
  | [] => none
  | first :: rest => some (rest.foldl older first)

/-- Moves a job from queued to processing, and says whether it did. -/
def claim (id : JobId) (store : Store) : Bool × Store :=
  match store.find? id with
  | none => (false, store)
  | some job =>
    if job.status = .queued then
      (true, store.update id fun job => { job with status := .processing, progress := .int 0 })
    else (false, store)

def setProgress (id : JobId) (progress : Json) (store : Store) : Except Fault Store := do
  match ← Cell.number progress with
  | some progress => return store.update id fun job => { job with progress }
  | none => throw .badRow

def markCompleted (id : JobId) (url : Json) (store : Store) : Except Fault Store := do
  let downloadUrl ← Cell.text url
  return store.update id fun job =>
    { job with status := .completed, progress := .int 100, downloadUrl, completed := true }

def markFailed (id : JobId) (message : Json) (store : Store) : Except Fault Store := do
  let errorMessage ← Cell.text message
  return store.update id fun job =>
    { job with status := .failed, errorMessage, completed := true }

/-! ## Rows after a change -/

theorem map_id_update (id : JobId) (change : Job → Job) (h : ∀ job, (change job).id = job.id)
    (store : Store) : (store.update id change).jobs.map Job.id = store.jobs.map Job.id := by
  simp only [update, List.map_map]
  refine List.map_congr_left fun job _ => ?_
  by_cases hj : job.id = id <;> simp [hj, h]

theorem find?_update_self (id : JobId) (change : Job → Job) (h : ∀ job, (change job).id = job.id)
    (store : Store) : (store.update id change).find? id = (store.find? id).map change := by
  obtain ⟨jobs⟩ := store
  simp only [update, find?]
  induction jobs with
  | nil => rfl
  | cons job rest ih =>
    by_cases hj : job.id = id
    · simp [hj, h]
    · simpa [hj] using ih

theorem find?_update_ne {id other : JobId} (hne : other ≠ id) (change : Job → Job)
    (h : ∀ job, (change job).id = job.id) (store : Store) :
    (store.update other change).find? id = store.find? id := by
  obtain ⟨jobs⟩ := store
  simp only [update, find?]
  induction jobs with
  | nil => rfl
  | cons job rest ih =>
    by_cases hj : job.id = other
    · have hi : job.id ≠ id := fun e => hne (hj ▸ e)
      simpa [hj, h, hi, hne] using ih
    · by_cases hi : job.id = id
      · have hother : id ≠ other := Ne.symm hne
        simp [hi, hother]
      · simpa [hj, hi] using ih

end Store

end Montage.Jobs
