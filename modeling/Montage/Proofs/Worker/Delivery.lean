/-
  Montage.Proofs.Worker.Delivery

  Submissions in a fleet.  Whatever workers and other submissions do in between, a row that a
  submission has added says what was asked for, and its document is in input storage; a
  submission that fails has added no row.  This holds as long as the document is not put into
  a directory in which a worker works on a job, which a user id with two dots can bring about.
-/
import Montage.Proofs.Compile.Success
import Montage.Proofs.Worker.Submitting

namespace Montage.Worker

open Montage.Api Montage.File Montage.Jobs Montage.Storage Montage.Timeline

/-- What can be relied on in an action: assets come from the media of the timeline, and calls
of submissions fail or do what they are there for. -/
def Action.IsReliable : Action → Prop
  | .worker _ (.task _ event) => event.IsFetched
  | .submission _ event => Submission.IsReliable event
  | _ => True

/-- The id for which an action submits a timeline. -/
def Action.submitted? : Action → Option JobId
  | .submit id _ => some id
  | _ => none

namespace Fleet

variable {fleet : Fleet} {action : Action} {actions : List Action} {id : JobId}

/-! ## What an action leaves -/

/-- The set-ups of the workers. -/
def configs (fleet : Fleet) : List Config :=
  fleet.members.map Member.config

/-- A submission that moves takes its own place among the submissions. -/
theorem exists_step_submission {index : Nat} {submission : Submission}
    (hsubmission : fleet.submissions[index]? = some submission) (event : SubmissionEvent) :
    ∃ first last, fleet.submissions = first ++ submission :: last ∧
      fleet.step (.submission index event) =
        { fleet with
          world := (submission.step fleet.input event fleet.world).1
          submissions := first ++ (submission.step fleet.input event fleet.world).2 :: last } := by
  obtain ⟨hlt, hget⟩ := List.getElem?_eq_some_iff.mp hsubmission
  obtain ⟨first, last, hsplit, -, hset⟩ := @List.exists_of_set _ index
    (submission.step fleet.input event fleet.world).2 fleet.submissions hlt
  refine ⟨first, last, hget ▸ hsplit, ?_⟩
  rw [← hset]
  simp only [step, hsubmission]

theorem input_step (action : Action) (fleet : Fleet) : (fleet.step action).input = fleet.input := by
  unfold step
  split
  · split <;> rfl
  · split <;> rfl
  · split <;> rfl
  · rfl

theorem configs_step (action : Action) (fleet : Fleet) :
    (fleet.step action).configs = fleet.configs := by
  cases action with
  | worker index event =>
      cases hmember : fleet.members[index]? with
      | none => simp only [step, hmember]
      | some member =>
          obtain ⟨first, last, hbefore, hstep⟩ := exists_step_worker hmember event
          rw [hstep, configs, configs, hbefore, List.map_append, List.map_append]
          rfl
  | submit id request =>
      unfold step
      dsimp only
      split <;> rfl
  | submission index event =>
      unfold step
      dsimp only
      split <;> rfl
  | statement statement => rfl

theorem submissions_worker (index : Nat) (event : Event) (fleet : Fleet) :
    (fleet.step (.worker index event)).submissions = fleet.submissions := by
  unfold step
  dsimp only
  split <;> rfl

/-- Workers leave all jobs alone. -/
theorem leaves_worker (hnumbered : fleet.Numbered) {index : Nat} {event : Event}
    (hgenuine : (Action.worker index event).IsGenuine)
    (hreliable : (Action.worker index event).IsReliable) (id : JobId) :
    World.Leaves fleet.configs id fleet.world (fleet.step (.worker index event)).world := by
  have hmove := move_step hnumbered hgenuine
  generalize fleet.step (.worker index event) = after at hmove ⊢
  have hclaim : ∀ other, World.Leaves fleet.configs id fleet.world
      ((Statement.claim other).run fleet.world) :=
    fun other => (Statement.claim other).leaves_run id fleet.world
  cases hmove with
  | still hworld htasks =>
      rw [hworld]
      exact .refl fleet.world
  | claimed other hworld htasks =>
      rw [hworld]
      exact hclaim other
  | won job number hwon hworld hbefore htasks =>
      rw [hworld]
      exact hclaim job.id
  | task hmember hfind hcancel hstart hbefore hworld htasks =>
      rw [hworld]
      have hconfig : _ ∈ fleet.configs :=
        List.mem_map.mpr ⟨_, List.mem_of_getElem? hmember, rfl⟩
      exact Task.leaves_step hconfig hreliable id fleet.world _

/-! ## One job -/

/-- How many submissions are for a job. -/
def submissionsFor (id : JobId) (fleet : Fleet) : Nat :=
  (fleet.submissions.map Submission.id).count id

/-- What is known of a job for which at most one timeline is submitted. -/
structure Tracks (id : JobId) (fleet : Fleet) : Prop where
  sound : ∀ submission ∈ fleet.submissions, submission.id = id →
    submission.Sound fleet.input fleet.configs fleet.world
  unseen : (∀ submission ∈ fleet.submissions, submission.id ≠ id) →
    fleet.world.store.made? id = none

theorem submissionsFor_submit (id : JobId) (other : JobId) (request : ExportRequest)
    (fleet : Fleet) : (fleet.step (.submit other request)).submissionsFor id ≤
      fleet.submissionsFor id + [other].count id := by
  unfold step
  dsimp only
  split
  · exact Nat.le_add_right _ _
  next submission hstart =>
    obtain rfl := Submission.start_eq_ok hstart
    simp only [submissionsFor, List.map_append, List.count_append, List.map_cons, List.map_nil]
    exact Nat.le_refl _

theorem submissionsFor_submission (id : JobId) (index : Nat) (event : SubmissionEvent)
    (fleet : Fleet) :
    (fleet.step (.submission index event)).submissionsFor id = fleet.submissionsFor id := by
  cases hsubmission : fleet.submissions[index]? with
  | none => simp only [step, hsubmission]
  | some submission =>
      obtain ⟨first, last, hbefore, hstep⟩ := exists_step_submission hsubmission event
      have hid := (submission.same_step fleet.input event fleet.world).1
      rw [hstep, submissionsFor, submissionsFor, hbefore]
      simp only [List.map_append, List.map_cons, hid]

theorem submissionsFor_step (id : JobId) (action : Action) (fleet : Fleet) :
    (fleet.step action).submissionsFor id ≤
      fleet.submissionsFor id + action.submitted?.toList.count id := by
  cases action with
  | worker index event =>
      rw [submissionsFor, submissions_worker]
      exact Nat.le_add_right _ _
  | submit other request => exact submissionsFor_submit id other request fleet
  | submission index event =>
      rw [submissionsFor_submission]
      exact Nat.le_add_right _ _
  | statement statement => exact Nat.le_add_right _ _

/-- A job stays what it is as long as its submission does not move. -/
theorem Tracks.leave {after : Fleet} (h : Tracks id fleet) (hinput : after.input = fleet.input)
    (hconfigs : after.configs = fleet.configs)
    (hsubmissions : after.submissions = fleet.submissions)
    (hleaves : World.Leaves fleet.configs id fleet.world after.world) : Tracks id after := by
  refine ⟨fun submission hmem hid => ?_, fun hnone => ?_⟩
  · rw [hsubmissions] at hmem
    rw [hinput, hconfigs]
    subst hid
    exact (h.sound submission hmem rfl).leave hleaves
  · rw [hsubmissions] at hnone
    rw [hleaves.row]
    exact h.unseen hnone

/-- A timeline that is submitted waits to be written. -/
theorem tracks_submit (h : Tracks id fleet) {other : JobId} {request : ExportRequest}
    (honce : fleet.submissionsFor id + [other].count id ≤ 1) :
    Tracks id (fleet.step (.submit other request)) := by
  unfold step
  dsimp only
  split
  · exact h
  next submission hstart =>
    obtain rfl := Submission.start_eq_ok hstart
    refine ⟨fun submission hmem hid => ?_, fun hnone => ?_⟩
    · rcases List.mem_append.mp hmem with hold | hnew
      · exact h.sound submission hold hid
      · obtain rfl := List.mem_singleton.mp hnew
        obtain rfl : other = id := hid
        -- nobody has submitted a timeline for this job before
        refine h.unseen fun submission hsubmission hsame => ?_
        have hpositive : 0 < fleet.submissionsFor other :=
          List.count_pos_iff.mpr (List.mem_map.mpr ⟨submission, hsubmission, hsame⟩)
        rw [List.count_singleton_self] at honce
        omega
    · exact h.unseen fun submission hmem => hnone submission (List.mem_append_left _ hmem)

/-- The submission for a job moves. -/
theorem tracks_own (honce : fleet.submissionsFor id ≤ 1)
    {submission moved : Submission} {first last : List Submission} {after : Fleet}
    (hbefore : fleet.submissions = first ++ submission :: last)
    (hafter : after.submissions = first ++ moved :: last) (hid : submission.id = id)
    (hsame : moved.id = submission.id)
    (hsound : moved.Sound after.input after.configs after.world) : Tracks id after := by
  -- the one that moves is all that is counted for the job
  have hothers : ∀ other ∈ first ++ last, other.id ≠ id := by
    intro other hother heq
    have hpositive : 0 < ((first ++ last).map Submission.id).count id :=
      List.count_pos_iff.mpr (List.mem_map.mpr ⟨other, hother, heq⟩)
    rw [submissionsFor, hbefore, (List.perm_middle.map Submission.id).count_eq, List.map_cons, hid,
      List.count_cons_self] at honce
    omega
  refine ⟨fun other hother heq => ?_, fun hnone => ?_⟩
  · rw [hafter, List.perm_middle.mem_iff, List.mem_cons] at hother
    rcases hother with rfl | hrest
    · exact hsound
    · exact absurd heq (hothers other hrest)
  · refine absurd (hsame.trans hid) (hnone moved ?_)
    rw [hafter, List.perm_middle.mem_iff]
    exact List.mem_cons_self

/-- The submission for another job moves. -/
theorem tracks_other (h : Tracks id fleet) {submission moved : Submission}
    {first last : List Submission} {after : Fleet}
    (hbefore : fleet.submissions = first ++ submission :: last)
    (hafter : after.submissions = first ++ moved :: last) (hid : submission.id ≠ id)
    (hsame : moved.id = submission.id) (hinput : after.input = fleet.input)
    (hconfigs : after.configs = fleet.configs)
    (hleaves : World.Leaves fleet.configs id fleet.world after.world) : Tracks id after := by
  refine ⟨fun other hother heq => ?_, fun hnone => ?_⟩
  · rw [hafter, List.perm_middle.mem_iff, List.mem_cons] at hother
    rcases hother with rfl | hrest
    · exact absurd (hsame.symm.trans heq) hid
    · have hold : other ∈ fleet.submissions := by
        rw [hbefore, List.perm_middle.mem_iff]
        exact List.mem_cons_of_mem submission hrest
      rw [hinput, hconfigs]
      subst heq
      exact (h.sound other hold rfl).leave hleaves
  · rw [hleaves.row]
    refine h.unseen fun other hother => ?_
    rw [hbefore, List.perm_middle.mem_iff, List.mem_cons] at hother
    rcases hother with rfl | hrest
    · exact hid
    · refine hnone other ?_
      rw [hafter, List.perm_middle.mem_iff]
      exact List.mem_cons_of_mem moved hrest

theorem tracks_submission (h : Tracks id fleet) (honce : fleet.submissionsFor id ≤ 1) {index : Nat}
    {event : SubmissionEvent} (hreliable : Submission.IsReliable event) :
    Tracks id (fleet.step (.submission index event)) := by
  cases hsubmission : fleet.submissions[index]? with
  | none =>
      have hstay : fleet.step (.submission index event) = fleet := by simp only [step, hsubmission]
      rw [hstay]
      exact h
  | some submission =>
      obtain ⟨first, last, hbefore, hstep⟩ := exists_step_submission hsubmission event
      obtain ⟨hsame, -⟩ := submission.same_step fleet.input event fleet.world
      rw [hstep]
      by_cases hid : submission.id = id
      · refine tracks_own honce hbefore rfl hid hsame ?_
        exact Submission.sound_step hreliable
          (h.sound submission (List.mem_of_getElem? hsubmission) hid)
      · exact tracks_other h hbefore rfl hid hsame rfl rfl
          (submission.leaves_step event (Ne.symm hid) fleet.world)

theorem tracks_step (hnumbered : fleet.Numbered) (hgenuine : action.IsGenuine)
    (hreliable : action.IsReliable) (h : Tracks id fleet)
    (honce : fleet.submissionsFor id + action.submitted?.toList.count id ≤ 1) :
    Tracks id (fleet.step action) := by
  cases action with
  | worker index event =>
      exact h.leave (input_step _ fleet) (configs_step _ fleet)
        (submissions_worker index event fleet) (leaves_worker hnumbered hgenuine hreliable id)
  | submit other request => exact tracks_submit h honce
  | submission index event => exact tracks_submission h honce hreliable
  | statement statement => exact h.leave rfl rfl rfl (statement.leaves_run id fleet.world)

/-! ## Runs -/

/-- The ids for which timelines are submitted. -/
def submitted (actions : List Action) : List JobId :=
  actions.filterMap Action.submitted?

/-- A submission has been one before, or it is the one that an action makes. -/
theorem exists_earlier_of_step {submission : Submission}
    (hmem : submission ∈ (fleet.step action).submissions) :
    (∃ earlier ∈ fleet.submissions,
      earlier.id = submission.id ∧ earlier.request = submission.request) ∨
      action = .submit submission.id submission.request := by
  cases action with
  | worker index event =>
      rw [submissions_worker] at hmem
      exact .inl ⟨submission, hmem, rfl, rfl⟩
  | submit other request =>
      unfold step at hmem
      dsimp only at hmem
      split at hmem
      · exact .inl ⟨submission, hmem, rfl, rfl⟩
      next started hstart =>
        obtain rfl := Submission.start_eq_ok hstart
        rcases List.mem_append.mp hmem with hold | hnew
        · exact .inl ⟨submission, hold, rfl, rfl⟩
        · obtain rfl := List.mem_singleton.mp hnew
          exact .inr rfl
  | submission index event =>
      cases hmoving : fleet.submissions[index]? with
      | none =>
          simp only [step, hmoving] at hmem
          exact .inl ⟨submission, hmem, rfl, rfl⟩
      | some moving =>
          obtain ⟨first, last, hbefore, hstep⟩ := exists_step_submission hmoving event
          obtain ⟨hid, hrequest⟩ := moving.same_step fleet.input event fleet.world
          rw [hstep, List.perm_middle.mem_iff, List.mem_cons] at hmem
          rcases hmem with rfl | hrest
          · exact .inl ⟨moving, List.mem_of_getElem? hmoving, hid.symm, hrequest.symm⟩
          · refine .inl ⟨submission, ?_, rfl, rfl⟩
            rw [hbefore, List.perm_middle.mem_iff]
            exact List.mem_cons_of_mem moving hrest
  | statement statement => exact .inl ⟨submission, hmem, rfl, rfl⟩

/-- Every submission of a run is one of its actions. -/
theorem submit_mem_of_run {submission : Submission}
    (hmem : submission ∈ (fleet.run actions).submissions) :
    (∃ earlier ∈ fleet.submissions,
      earlier.id = submission.id ∧ earlier.request = submission.request) ∨
      .submit submission.id submission.request ∈ actions := by
  induction actions generalizing fleet with
  | nil => exact .inl ⟨submission, hmem, rfl, rfl⟩
  | cons action rest ih =>
      have hrest := @ih (fleet.step action) hmem
      rcases hrest with ⟨earlier, hearlier, hid, hrequest⟩ | hlater
      · rcases exists_earlier_of_step hearlier with ⟨first, hfirst, hsame⟩ | rfl
        · exact .inl ⟨first, hfirst, hsame.1.trans hid, hsame.2.trans hrequest⟩
        · rw [hid, hrequest]
          exact .inr List.mem_cons_self
      · exact .inr (List.mem_cons_of_mem action hlater)

/-- Buckets and set-ups stay the same. -/
theorem same_run (actions : List Action) (fleet : Fleet) :
    (fleet.run actions).input = fleet.input ∧ (fleet.run actions).configs = fleet.configs := by
  induction actions generalizing fleet with
  | nil => exact ⟨rfl, rfl⟩
  | cons action rest ih =>
      obtain ⟨hinput, hconfigs⟩ := ih (fleet.step action)
      exact ⟨hinput.trans (input_step action fleet), hconfigs.trans (configs_step action fleet)⟩

theorem tracks_run (hnumbered : fleet.Numbered) (hgenuine : ∀ action ∈ actions, action.IsGenuine)
    (hreliable : ∀ action ∈ actions, action.IsReliable) (h : Tracks id fleet)
    (honce : fleet.submissionsFor id + (submitted actions).count id ≤ 1) :
    Tracks id (fleet.run actions) := by
  induction actions generalizing fleet with
  | nil => exact h
  | cons action rest ih =>
      have hgenuineStep := hgenuine action List.mem_cons_self
      have hreliableStep := hreliable action List.mem_cons_self
      have hcount : (submitted (action :: rest)).count id =
          action.submitted?.toList.count id + (submitted rest).count id := by
        rw [submitted, List.filterMap_cons]
        cases action.submitted? with
        | none => exact (Nat.zero_add _).symm
        | some other =>
            rw [Option.toList_some, ← List.count_append]
            rfl
      -- what the first action submits is counted with the fleet from now on
      have hmore := submissionsFor_step id action fleet
      show Tracks id ((fleet.step action).run rest)
      refine ih (turn_step hgenuineStep hnumbered).numbered
        (fun other hother => hgenuine other (List.mem_cons_of_mem action hother))
        (fun other hother => hreliable other (List.mem_cons_of_mem action hother))
        (tracks_step hnumbered hgenuineStep hreliableStep h ?_) ?_
      · omega
      · omega

/-! ## Runs from the beginning -/

section

variable (hempty : fleet.submissions = [])
include hempty

theorem tracks_of_empty (hnew : fleet.world.store.find? id = none) : Tracks id fleet := by
  refine ⟨fun submission hmem => ?_, fun _ => Store.made?_eq_none_iff.mpr hnew⟩
  rw [hempty] at hmem
  cases hmem

theorem submit_mem_of_empty {submission : Submission}
    (hmem : submission ∈ (fleet.run actions).submissions) :
    .submit submission.id submission.request ∈ actions := by
  rcases submit_mem_of_run hmem with ⟨earlier, hearlier, -⟩ | hsubmit
  · rw [hempty] at hearlier
    cases hearlier
  · exact hsubmit

/-- Each job that is not in the table at first is known, if no id is used twice. -/
theorem tracks_run_of_new (hfresh : fleet.IsFresh)
    (hgenuine : ∀ action ∈ actions, action.IsGenuine)
    (hreliable : ∀ action ∈ actions, action.IsReliable) (hnodup : (submitted actions).Nodup)
    (hnew : fleet.world.store.find? id = none) : Tracks id (fleet.run actions) := by
  refine tracks_run (numbered_of_isFresh hfresh) hgenuine hreliable
    (tracks_of_empty hempty hnew) ?_
  rw [submissionsFor, hempty]
  have honce := List.nodup_iff_count_le_one.mp hnodup id
  simpa using honce

/-- All submissions of a run are what their phases say. -/
theorem sound_of_run (hfresh : fleet.IsFresh) (hgenuine : ∀ action ∈ actions, action.IsGenuine)
    (hreliable : ∀ action ∈ actions, action.IsReliable) (hnodup : (submitted actions).Nodup)
    (hnew : ∀ id ∈ submitted actions, fleet.world.store.find? id = none)
    {submission : Submission} (hmem : submission ∈ (fleet.run actions).submissions) :
    submission.Sound fleet.input fleet.configs (fleet.run actions).world := by
  obtain ⟨hinput, hconfigs⟩ := same_run actions fleet
  have hid : submission.id ∈ submitted actions :=
    List.mem_filterMap.mpr ⟨_, submit_mem_of_empty hempty hmem, rfl⟩
  have htracks := tracks_run_of_new hempty hfresh hgenuine hreliable hnodup (hnew _ hid)
  have hsound := htracks.sound submission hmem rfl
  rwa [hinput, hconfigs] at hsound

end

/-! ## Deliveries -/

/-- What has become of the timelines that were submitted in a run. -/
structure Delivers (fleet : Fleet) (actions : List Action) : Prop where
  /-- Submissions are made by actions. -/
  made : ∀ submission ∈ (fleet.run actions).submissions,
    .submit submission.id submission.request ∈ actions
  /-- A row that was added is that of a submission that has ended with one. -/
  added : ∀ id row, (fleet.run actions).world.store.find? id = some row →
    fleet.world.store.find? id = none →
      ∃ submission ∈ (fleet.run actions).submissions, submission.id = id ∧
        ∃ job, submission.phase = .ended (.ok job)
  /-- The row says what was asked for, and its document is in input storage. -/
  delivered : ∀ submission ∈ (fleet.run actions).submissions, ∀ job,
    submission.phase = .ended (.ok job) →
      ∃ row, (fleet.run actions).world.store.find? submission.id = some row ∧
        IsRowOf submission.request submission.id row ∧
        (IsClear fleet.configs (fleet.input.path row.inputKey) →
          ∃ text, submission.request.timeline.stored = .ok text ∧
            (fleet.run actions).world.files.Holds (fleet.input.path row.inputKey)
              (Text.Utf8.encode text))
  /-- A submission that has failed has added no row, and it has not failed for a url. -/
  failed : ∀ submission ∈ (fleet.run actions).submissions, ∀ fault,
    submission.phase = .ended (.error fault) →
      (fleet.run actions).world.store.find? submission.id = none ∧
        ∀ mediaId, fault ≠ .failed (transientFailure mediaId)
  /-- A timeline is refused exactly for an in-browser url; the first medium with one is named,
  and nothing else happens. -/
  refused : ∀ id request,
    ((∃ fault, Submission.start id request = .error fault) ↔
      ∃ item ∈ request.timeline.mediaItems, HasBlobUrl item.2) ∧
    ∀ fault, Submission.start id request = .error fault →
      (∃ mediaId, IsFirstBlob request.timeline mediaId ∧
        fault = .failed (transientFailure mediaId)) ∧
      (fleet.run actions).step (.submit id request) = fleet.run actions

theorem run_delivers (hfresh : fleet.IsFresh) (hempty : fleet.submissions = [])
    (hgenuine : ∀ action ∈ actions, action.IsGenuine)
    (hreliable : ∀ action ∈ actions, action.IsReliable) (hnodup : (submitted actions).Nodup)
    (hnew : ∀ id ∈ submitted actions, fleet.world.store.find? id = none) :
    Delivers fleet actions := by
  have hsound : ∀ submission ∈ (fleet.run actions).submissions,
      submission.Sound fleet.input fleet.configs (fleet.run actions).world :=
    fun _ hmem => sound_of_run hempty hfresh hgenuine hreliable hnodup hnew hmem
  refine ⟨fun _ hmem => submit_mem_of_empty hempty hmem, ?_,
    fun submission hmem _ hphase => (hsound submission hmem).delivered hphase,
    fun submission hmem _ hphase => (hsound submission hmem).failed hphase, ?_⟩
  · intro id row hfound hnone
    have hrow : (fleet.run actions).world.store.made? id ≠ none := by
      rw [ne_eq, Store.made?_eq_none_iff, hfound]
      exact Option.some_ne_none row
    have htracks := tracks_run_of_new hempty hfresh hgenuine hreliable hnodup hnone
    -- a job without a submission would have no row
    obtain ⟨submission, hmem, rfl⟩ : ∃ submission ∈ (fleet.run actions).submissions,
        submission.id = id := by
      by_contra hnever
      exact hrow (htracks.unseen fun submission hmem hid => hnever ⟨submission, hmem, hid⟩)
    exact ⟨submission, hmem, rfl, (hsound submission hmem).exists_of_row hrow⟩
  · intro id request
    refine ⟨?_, fun fault hfault => ⟨Submission.start_eq_error_iff.mp hfault, ?_⟩⟩
    · rw [← exists_isFirstBlob_iff]
      simp only [Submission.start_eq_error_iff]
      constructor
      · rintro ⟨_, mediaId, hfirst, -⟩
        exact ⟨mediaId, hfirst⟩
      · rintro ⟨mediaId, hfirst⟩
        exact ⟨_, mediaId, hfirst, rfl⟩
    · simp only [step, hfault]

/-! ## A document beside another job -/

/-- A worker with one queued job. -/
def sampleDesk : Fleet :=
  { input := sampleConfig.input
    world := { store := ⟨[sampleRow]⟩ }
    members := [⟨sampleConfig, {}⟩] }

def sampleRequest (userId : String) : ExportRequest :=
  { userId, projectId := "p", timeline := Compile.sampleDocument }

def sampleSubmission (userId : String) : Submission :=
  { id := ⟨2⟩, request := sampleRequest userId }

def sampleText : String :=
  Compile.sampleDocument.stored.toOption.getD ""

/-- The document is written for a user. -/
def sampleFiles (userId : String) : Except Fault Unit × Tree :=
  (sampleDesk.input.prepare (sampleSubmission userId).inputKey >>= fun path =>
    Call.write path (Text.Utf8.encode sampleText)).run.run sampleDesk.world.files

/-- A timeline is submitted for a user, and its document is written. -/
def sampleSubmitting (userId : String) : List Action :=
  [.submit ⟨2⟩ (sampleRequest userId), .submission 0 (.documentWritten .genuine)]

/-- The worker with the document, for which there is no row yet. -/
def sampleSubmitted (userId : String) : Fleet :=
  { sampleDesk with
    world := { sampleDesk.world with files := (sampleFiles userId).2 }
    submissions := [{ sampleSubmission userId with phase := .inserting }] }

theorem run_sampleSubmitting {userId : String}
    (hwritten : (sampleFiles userId).1.toOption = some ()) (actions : List Action) :
    sampleDesk.run (sampleSubmitting userId ++ actions) = (sampleSubmitted userId).run actions := by
  have hstored : Compile.sampleDocument.stored = .ok sampleText := by
    have hsome : Compile.sampleDocument.stored.toOption.isSome = true := by decide +kernel
    unfold sampleText
    cases hresult : Compile.sampleDocument.stored with
    | error fault =>
        rw [hresult] at hsome
        cases hsome
    | ok text => rfl
  have hwrite : sampleFiles userId = (.ok (), (sampleFiles userId).2) := by
    cases hresult : (sampleFiles userId).1 with
    | error fault =>
        rw [hresult] at hwritten
        cases hwritten
    | ok _ => exact Prod.ext hresult rfl
  have hstart : Submission.start ⟨2⟩ (sampleRequest userId) = .ok (sampleSubmission userId) := rfl
  have hdocument := @Submission.writeDocument_genuine sampleDesk.input sampleDesk.world
    (sampleSubmission userId) sampleText (sampleFiles userId).2 hstored hwrite
  have hfirst : sampleDesk.step (.submit ⟨2⟩ (sampleRequest userId)) =
      { sampleDesk with submissions := [sampleSubmission userId] } := by
    simp only [step, hstart]
    rfl
  have hsecond : ({ sampleDesk with submissions := [sampleSubmission userId] } : Fleet).step
      (.submission 0 (.documentWritten .genuine)) = sampleSubmitted userId := by
    have hstep : (sampleSubmission userId).step sampleDesk.input (.documentWritten .genuine)
      sampleDesk.world = _ := hdocument
    simp only [step, List.getElem?_cons_zero, hstep]
    rfl
  rw [run_append]
  exact congrArg (run actions) ((congrArg (step _) hfirst).trans hsecond)

/-- Another job is submitted and its row added, and a third one cannot be stored; meanwhile the
worker fails with the job that it has. -/
def sampleMeanwhile : List Action :=
  [.worker 0 .poll, .worker 0 (.fetched 0 .genuine), .submission 0 (.rowInserted 1 .genuine),
   .worker 0 (.claimed 0 .genuine), .submit ⟨3⟩ (sampleRequest "u"), .worker 0 (.task 0 .begin),
   .submission 1 (.documentWritten (.raises (.unreachable "connection lost") false)),
   .worker 0 (.task 0 (.read (.raises (.unreachable "connection lost") false))),
   .worker 0 (.task 0 (.failureWritten .genuine))]

theorem isFresh_sampleDesk : sampleDesk.IsFresh := by
  intro member hmember
  obtain rfl := List.mem_singleton.mp hmember
  rfl

/-- The rows of the table, with their states. -/
def sampleRows (userId : String) : List (JobId × Status) :=
  (sampleDesk.run (sampleSubmitting userId ++ sampleMeanwhile)).world.store.jobs.map
    fun row => (row.id, row.status)

theorem genuine_sampleMeanwhile (userId : String) :
    ∀ action ∈ sampleSubmitting userId ++ sampleMeanwhile,
      action.IsGenuine ∧ action.IsReliable := by
  simp [sampleSubmitting, sampleMeanwhile, Action.IsGenuine, State.Genuine, Action.IsReliable,
    Submission.IsReliable, TaskEvent.IsFetched]

theorem run_delivers_sampleMeanwhile :
    sampleRows "u" = [(⟨7⟩, .failed), (⟨2⟩, .queued)] ∧
      IsClear sampleDesk.configs (sampleDesk.input.path (jobKey "u" ⟨2⟩ "timeline.json")) ∧
      Delivers sampleDesk (sampleSubmitting "u" ++ sampleMeanwhile) := by
  have hactions := genuine_sampleMeanwhile "u"
  refine ⟨?_, ?_, ?_⟩
  · rw [sampleRows, run_sampleSubmitting (by decide +kernel)]
    decide +kernel
  · refine isClear_of_inside isPlainName_timeline (by decide +kernel) (by decide +kernel)
      (by decide) fun config hconfig => ?_
    obtain rfl := List.mem_singleton.mp hconfig
    decide
  · exact run_delivers isFresh_sampleDesk rfl (fun action haction => (hactions action haction).1)
      (fun action haction => (hactions action haction).2) (by decide) (by decide)

/-- The directory in which the worker works on its job, from the bucket on. -/
def sampleIntruder : String := "../scratch/00000000-0000-4000-8000-000000000007"

/-- The document of this user goes with the directory: there is a row for it, and no file. -/
theorem documentLost_sampleMeanwhile :
    (∀ action ∈ sampleSubmitting sampleIntruder ++ sampleMeanwhile,
      action.IsGenuine ∧ action.IsReliable) ∧
      sampleRows sampleIntruder = [(⟨7⟩, .failed), (⟨2⟩, .queued)] ∧
      ∀ bytes, ¬ (sampleDesk.run
        (sampleSubmitting sampleIntruder ++ sampleMeanwhile)).world.files.Holds
          (sampleDesk.input.path (jobKey sampleIntruder ⟨2⟩ "timeline.json")) bytes := by
  have hrun := @run_sampleSubmitting sampleIntruder (by decide +kernel) sampleMeanwhile
  have hend : ((sampleSubmitted sampleIntruder).run sampleMeanwhile).world.store.jobs.map
        (fun row => (row.id, row.status)) = [(⟨7⟩, .failed), (⟨2⟩, .queued)] ∧
      ((Call.read (sampleDesk.input.path
        (jobKey sampleIntruder ⟨2⟩ "timeline.json"))).run.run
          ((sampleSubmitted sampleIntruder).run sampleMeanwhile).world.files).1.toOption =
            none := by
    decide +kernel
  obtain ⟨hrows, hgone⟩ := hend
  refine ⟨genuine_sampleMeanwhile sampleIntruder, ?_, fun bytes hholds => ?_⟩
  · rw [sampleRows, hrun, hrows]
  · rw [hrun, Tree.Holds] at hholds
    rw [hholds] at hgone
    cases hgone

end Fleet

end Montage.Worker
