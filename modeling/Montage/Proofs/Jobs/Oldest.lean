/-
  Montage.Proofs.Jobs.Oldest

  The head of the queue.  The job that is looked up is one of the queued ones, and none of
  them was made before it.  Jobs that are taken in this way one after the other come by age,
  and what they leave in the queue is not older than they are.
-/
import Montage.Proofs.Jobs.Lifecycle

namespace Montage.Jobs

open Montage.Number

namespace Store

variable {store : Store} {job : Job}

/-! ## The queue -/

/-- The jobs that wait to be claimed. -/
def queued (store : Store) : List Job :=
  store.jobs.filter fun job => job.status = .queued

theorem mem_queued : job ∈ store.queued ↔ job ∈ store.jobs ∧ job.status = .queued := by
  simp [queued]

/-- Whether no queued job was made before this one. -/
structure IsOldest (job : Job) (store : Store) : Prop where
  queued : job ∈ store.queued
  least : ∀ other ∈ store.queued, job.createdAt ≤ other.createdAt

theorem createdAt_older_le (first second : Job) :
    (older first second).createdAt ≤ first.createdAt ∧
      (older first second).createdAt ≤ second.createdAt := by
  unfold older
  split <;> omega

theorem older_eq (first second : Job) :
    older first second = first ∨ older first second = second := by
  unfold older
  split
  · exact .inr rfl
  · exact .inl rfl

theorem foldl_older (first : Job) (rest : List Job) :
    rest.foldl older first ∈ first :: rest ∧
      ∀ other ∈ first :: rest, (rest.foldl older first).createdAt ≤ other.createdAt := by
  induction rest generalizing first with
  | nil => simp
  | cons second rest ih =>
      obtain ⟨hmem, hle⟩ := ih (older first second)
      have hhead := hle _ List.mem_cons_self
      have holder := createdAt_older_le first second
      rw [List.foldl_cons]
      constructor
      · rcases List.mem_cons.mp hmem with heq | hrest
        · rw [heq]
          rcases older_eq first second with hfirst | hsecond
          · rw [hfirst]
            exact List.mem_cons_self
          · rw [hsecond]
            exact List.mem_cons_of_mem first List.mem_cons_self
        · exact List.mem_cons_of_mem first (List.mem_cons_of_mem second hrest)
      · intro other hother
        rcases List.mem_cons.mp hother with rfl | hrest
        · exact Int.le_trans hhead holder.1
        · rcases List.mem_cons.mp hrest with rfl | hrest
          · exact Int.le_trans hhead holder.2
          · exact hle other (List.mem_cons_of_mem _ hrest)

/-- The job that is looked up is queued, and no queued job was made before it. -/
theorem isOldest_of_oldestQueued (h : store.oldestQueued = some job) : IsOldest job store := by
  unfold oldestQueued at h
  split at h
  next => cases h
  next first rest hqueued =>
    cases h
    obtain ⟨hmem, hleast⟩ := foldl_older first rest
    exact ⟨by rw [queued, hqueued]; exact hmem, by rw [queued, hqueued]; exact hleast⟩

/-- Only an empty queue has no oldest job. -/
theorem queued_of_oldestQueued (h : store.oldestQueued = none) : store.queued = [] := by
  unfold oldestQueued at h
  split at h
  next hqueued => exact hqueued
  next => cases h

theorem claim_of_queued (hdistinct : (store.jobs.map Job.id).Nodup) (h : job ∈ store.queued) :
    store.claim job.id = (true, store.update job.id Job.taken) := by
  obtain ⟨hmem, hstatus⟩ := mem_queued.mp h
  simp only [claim, find?_of_distinct hdistinct hmem, hstatus, if_true]
  rfl

/-! ## Rows -/

/-- A row after these jobs have been taken. -/
def takenAmong (drawn : List Job) (job : Job) : Job :=
  if job ∈ drawn then job.taken else job

/-- A row after these reports of progress, of which the first one is the latest. -/
def withReports : List (JobId × Scalar) → Job → Job
  | [], job => job
  | (id, progress) :: earlier, job =>
    if (withReports earlier job).id = id then (withReports earlier job).reported progress
    else withReports earlier job

variable {drawn : List Job} {reports : List (JobId × Scalar)}

theorem takenAmong_nil (job : Job) : takenAmong [] job = job :=
  if_neg List.not_mem_nil

@[simp] theorem id_takenAmong (drawn : List Job) (job : Job) :
    (takenAmong drawn job).id = job.id := by
  unfold takenAmong
  split <;> rfl

@[simp] theorem id_withReports (reports : List (JobId × Scalar)) (job : Job) :
    (withReports reports job).id = job.id := by
  induction reports with
  | nil => rfl
  | cons report earlier ih =>
      unfold withReports
      split <;> exact ih

/-- Reports of progress leave the status alone. -/
@[simp] theorem status_withReports (reports : List (JobId × Scalar)) (job : Job) :
    (withReports reports job).status = job.status := by
  induction reports with
  | nil => rfl
  | cons report earlier ih =>
      unfold withReports
      split <;> exact ih

theorem withReports_of_not_mem (h : job.id ∉ reports.map Prod.fst) :
    withReports reports job = job := by
  induction reports with
  | nil => rfl
  | cons report earlier ih =>
      rw [List.map_cons, List.mem_cons, not_or] at h
      rw [withReports, ih h.2, if_neg h.1]

/-- If nothing is queued that has reports and is not taken, the queue is left without the jobs
    that are taken. -/
theorem mem_queued_of_rows {before after : Store}
    (hrows : after.jobs = before.jobs.map fun job => withReports reports (takenAmong drawn job))
    (hreported : ∀ job ∈ before.queued, job.id ∈ reports.map Prod.fst → job ∈ drawn) :
    job ∈ after.queued ↔ job ∈ before.queued ∧ job ∉ drawn := by
  have hsame : ∀ row ∈ before.queued, row ∉ drawn →
      withReports reports (takenAmong drawn row) = row := by
    intro row hrow hnot
    rw [takenAmong, if_neg hnot]
    exact withReports_of_not_mem fun hreport => hnot (hreported row hrow hreport)
  constructor
  · intro hjob
    obtain ⟨hmem, hstatus⟩ := mem_queued.mp hjob
    rw [hrows] at hmem
    obtain ⟨row, hrow, rfl⟩ := List.mem_map.mp hmem
    rw [status_withReports, takenAmong] at hstatus
    split at hstatus
    next => cases hstatus
    next hnot =>
      have hqueued : row ∈ before.queued := mem_queued.mpr ⟨hrow, hstatus⟩
      rw [hsame row hqueued hnot]
      exact ⟨hqueued, hnot⟩
  · rintro ⟨hqueued, hnot⟩
    obtain ⟨hmem, hstatus⟩ := mem_queued.mp hqueued
    refine mem_queued.mpr ⟨?_, hstatus⟩
    rw [hrows]
    exact List.mem_map.mpr ⟨job, hmem, hsame job hqueued hnot⟩

/-! ## Taking the oldest -/

/-- What a table comes to when these jobs are taken from its queue one after the other, the
    oldest one each time, while progress is reported on jobs that are not queued. -/
structure Drawn (before : Store) (drawn : List Job) (reports : List (JobId × Scalar))
    (after : Store) : Prop where
  /-- The rows of these jobs are taken, and nothing but reports changes a row besides. -/
  rows : after.jobs = before.jobs.map fun job => withReports reports (takenAmong drawn job)
  queued : drawn ⊆ before.queued
  /-- No job is taken twice. -/
  nodup : drawn.Nodup
  sorted : drawn.Pairwise fun earlier later => earlier.createdAt ≤ later.createdAt
  /-- None of them was made after a job that is still queued. -/
  oldest : ∀ job ∈ drawn, ∀ other ∈ after.queued, job.createdAt ≤ other.createdAt
  reported : ∀ job ∈ before.queued, job.id ∈ reports.map Prod.fst → job ∈ drawn

namespace Drawn

variable {before after : Store}

theorem nil (store : Store) : Drawn store [] [] store where
  rows := (List.map_id'' takenAmong_nil _).symm
  queued := List.nil_subset _
  nodup := List.nodup_nil
  sorted := List.Pairwise.nil
  oldest := fun _ hdrawn => absurd hdrawn List.not_mem_nil
  reported := fun _ _ hreport => absurd hreport List.not_mem_nil

theorem map_id (h : Drawn before drawn reports after) :
    after.jobs.map Job.id = before.jobs.map Job.id := by
  rw [h.rows, List.map_map]
  refine List.map_congr_left fun job _ => ?_
  rw [Function.comp_apply, id_withReports, id_takenAmong]

/-- The queue is left without these jobs. -/
theorem mem_queued (h : Drawn before drawn reports after) :
    job ∈ after.queued ↔ job ∈ before.queued ∧ job ∉ drawn :=
  mem_queued_of_rows h.rows h.reported

/-- Progress is reported on a job that was not queued or has been taken. -/
theorem report (h : Drawn before drawn reports after) {id : JobId}
    (hid : ∀ job ∈ before.queued, job.id = id → job ∈ drawn) (progress : Scalar) :
    Drawn before drawn ((id, progress) :: reports) (after.update id (Job.reported progress)) := by
  have hrows : (after.update id (Job.reported progress)).jobs = before.jobs.map fun job =>
      withReports ((id, progress) :: reports) (takenAmong drawn job) := by
    rw [update, h.rows, List.map_map]
    rfl
  have hreported : ∀ job ∈ before.queued,
      job.id ∈ ((id, progress) :: reports).map Prod.fst → job ∈ drawn := by
    intro job hjob hreport
    rcases List.mem_cons.mp hreport with hnow | hearlier
    · exact hid job hjob hnow
    · exact h.reported job hjob hearlier
  refine ⟨hrows, h.queued, h.nodup, h.sorted, fun job hjob other hother => ?_, hreported⟩
  exact h.oldest job hjob other (h.mem_queued.mpr ((mem_queued_of_rows hrows hreported).mp hother))

variable (hdistinct : (before.jobs.map Job.id).Nodup)
include hdistinct

theorem length (h : Drawn before drawn reports after) :
    before.queued.length = drawn.length + after.queued.length := by
  have hafter : (after.jobs.map Job.id).Nodup := h.map_id ▸ hdistinct
  have hnodup : (drawn ++ after.queued).Nodup := by
    refine List.nodup_append.mpr ⟨h.nodup, (List.Nodup.of_map _ hafter).filter _, ?_⟩
    rintro job hdrawn other hother rfl
    exact (h.mem_queued.mp hother).2 hdrawn
  have hbefore : before.queued.Nodup := (List.Nodup.of_map _ hdistinct).filter _
  have hperm : before.queued.Perm (drawn ++ after.queued) := by
    refine (List.perm_ext_iff_of_nodup hbefore hnodup).mpr fun job => ?_
    rw [List.mem_append, h.mem_queued]
    constructor
    · intro hmem
      by_cases hdrawn : job ∈ drawn
      · exact .inl hdrawn
      · exact .inr ⟨hmem, hdrawn⟩
    · rintro (hdrawn | hrest)
      · exact h.queued hdrawn
      · exact hrest.1
  rw [hperm.length_eq, List.length_append]

/-- A claim of a queued job takes it besides. -/
theorem rows_claim (h : Drawn before drawn reports after) (hjob : job ∈ after.queued) :
    (after.update job.id Job.taken).jobs =
      before.jobs.map fun row => withReports reports (takenAmong (drawn ++ [job]) row) := by
  obtain ⟨hbefore, hnew⟩ := h.mem_queued.mp hjob
  have hplain : withReports reports job = job :=
    withReports_of_not_mem fun hreport => hnew (h.reported job hbefore hreport)
  have htaken : withReports reports job.taken = job.taken :=
    withReports_of_not_mem fun hreport => hnew (h.reported job hbefore hreport)
  rw [update, h.rows, List.map_map]
  refine List.map_congr_left fun row hrow => ?_
  rw [Function.comp_apply, id_withReports, id_takenAmong]
  by_cases hid : row.id = job.id
  -- ids are distinct, so this is the row that is claimed
  · obtain rfl : row = job :=
      List.inj_on_of_nodup_map hdistinct hrow (Store.mem_queued.mp hbefore).1 hid
    have hlast : row ∈ drawn ++ [row] := List.mem_append_right _ List.mem_cons_self
    rw [if_pos rfl, takenAmong, takenAmong, if_neg hnew, if_pos hlast, hplain, htaken]
  · have hsame : row ∈ drawn ++ [job] ↔ row ∈ drawn := by
      rw [List.mem_append, List.mem_singleton]
      exact or_iff_left fun heq => hid (heq ▸ rfl)
    simp only [if_neg hid, takenAmong, hsame]

/-- The claim of the oldest job succeeds, and takes one more job. -/
theorem claim (h : Drawn before drawn reports store) (holdest : IsOldest job store) :
    (store.claim job.id).1 = true ∧
      Drawn before (drawn ++ [job]) reports (store.claim job.id).2 := by
  obtain ⟨hmem, hnew⟩ := h.mem_queued.mp holdest.queued
  rw [claim_of_queued (h.map_id ▸ hdistinct) holdest.queued]
  refine ⟨rfl, ?_⟩
  have hrows := h.rows_claim hdistinct holdest.queued
  have hreported : ∀ row ∈ before.queued, row.id ∈ reports.map Prod.fst → row ∈ drawn ++ [job] :=
    fun row hrow hreport => List.mem_append_left _ (h.reported row hrow hreport)
  constructor
  case rows => exact hrows
  case reported => exact hreported
  case queued =>
    exact List.append_subset.mpr ⟨h.queued, List.cons_subset.mpr ⟨hmem, List.nil_subset _⟩⟩
  case nodup =>
    refine List.nodup_append.mpr ⟨h.nodup, List.nodup_singleton job, ?_⟩
    rintro other hother last hlast rfl
    exact hnew (List.mem_singleton.mp hlast ▸ hother)
  case sorted =>
    refine List.pairwise_append.mpr ⟨h.sorted, List.pairwise_singleton _ job, ?_⟩
    intro earlier hearlier last hlast
    rw [List.mem_singleton.mp hlast]
    exact h.oldest earlier hearlier job holdest.queued
  case oldest =>
    intro taken htaken other hother
    obtain ⟨hqueued, hnot⟩ := (mem_queued_of_rows hrows hreported).mp hother
    have hleft : other ∈ store.queued :=
      h.mem_queued.mpr ⟨hqueued, fun hdrawn => hnot (List.mem_append_left _ hdrawn)⟩
    rcases List.mem_append.mp htaken with hearlier | hlast
    · exact h.oldest taken hearlier other hleft
    · rw [List.mem_singleton.mp hlast]
      exact holdest.least other hleft

end Drawn

end Store

end Montage.Jobs
