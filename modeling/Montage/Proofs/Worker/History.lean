/-
  Montage.Proofs.Worker.History

  The statuses that a job goes through.  A row is queued, then processing, then completed
  or failed, and stays so, as long as the task that completes it hears of it: a task whose
  statement is carried out but answered with a failure, or that is cancelled meanwhile,
  takes the job for one that has failed, and writes that over the completed row.
-/
import Montage.Proofs.Worker.Lifecycle

namespace Montage.Jobs

/-- How the status of a job may change; a job without one is not in the table. -/
inductive Status.Move : Option Status → Option Status → Prop
  | stay (status : Option Status) : Move status status
  | added : Move none (some .queued)
  | claimed : Move (some .queued) (some .processing)
  | completed : Move (some .processing) (some .completed)
  | failed : Move (some .processing) (some .failed)

/-- The statuses from one on, if the job ends with another one. -/
def Status.course (ending : Status) : Option Status → List Status
  | none => [.queued, .processing, ending]
  | some .queued => [.queued, .processing, ending]
  | some .processing => [.processing, ending]
  | some status => [status]

/-- Whether these are statuses of a job that goes from one on to one of the two ends. -/
def Status.Follows (statuses : List Status) (status : Option Status) : Prop :=
  statuses <+: course .completed status ∨ statuses <+: course .failed status

theorem Status.follows_self (status : Option Status) : Follows status.toList status := by
  rcases status with _ | status
  · exact .inl List.nil_prefix
  · cases status with
    | failed => exact .inr (List.prefix_rfl)
    | _ => exact .inl (by decide)

/-- A move comes before the statuses that follow it. -/
theorem Status.follows_of_move {status next : Option Status} (h : Move status next)
    (hne : next ≠ status) {later : List Status} (hlater : Follows later next) :
    Follows (status.toList ++ later) status := by
  cases h with
  | stay => exact absurd rfl hne
  | added => exact hlater
  | claimed =>
      have hcons : ∀ rest : List Status, later <+: rest →
          Status.queued :: later <+: Status.queued :: rest := fun _ hrest =>
        (List.prefix_cons_inj _).mpr hrest
      exact hlater.imp (hcons _) (hcons _)
  | completed =>
      have hrest : later <+: [.completed] := hlater.elim id id
      have hall : Status.processing :: later <+: [.processing, .completed] :=
        (List.prefix_cons_inj _).mpr hrest
      exact .inl hall
  | failed =>
      have hrest : later <+: [.failed] := hlater.elim id id
      have hall : Status.processing :: later <+: [.processing, .failed] :=
        (List.prefix_cons_inj _).mpr hrest
      exact .inr hall

namespace Store

/-! ## Statuses in the table -/

def status? (id : JobId) (store : Store) : Option Status :=
  (store.find? id).map Job.status

variable {id other : JobId} {store : Store}

theorem status?_update_ne (hne : other ≠ id) (change : Job → Job)
    (hid : ∀ job, (change job).id = job.id) (store : Store) :
    (store.update other change).status? id = store.status? id := by
  rw [status?, find?_update_ne hne change hid, status?]

theorem status?_update_self (id : JobId) (change : Job → Job)
    (hid : ∀ job, (change job).id = job.id) (store : Store) :
    (store.update id change).status? id = (store.find? id).map fun job => (change job).status := by
  rw [status?, find?_update_self id change hid, Option.map_map]
  rfl

theorem status?_reported (id other : JobId) (progress : Number.Scalar) (store : Store) :
    (store.update other (Job.reported progress)).status? id = store.status? id := by
  by_cases hother : other = id
  · subst hother
    exact status?_update_self other (Job.reported progress) (fun _ => rfl) store
  · exact status?_update_ne hother (Job.reported progress) (fun _ => rfl) store

/-- A row that a claim takes was queued and is processing. -/
theorem status?_of_claim (h : (store.claim id).1 = true) :
    store.status? id = some .queued ∧ (store.claim id).2.status? id = some .processing := by
  rcases claim_cases id store with ⟨job, hfind, hqueued, hclaim⟩ | hclaim
  · rw [hclaim]
    refine ⟨?_, ?_⟩
    · rw [status?, hfind, Option.map_some, hqueued]
    · dsimp only
      rw [status?_update_self id Job.taken (fun _ => rfl), hfind]
      rfl
  · rw [hclaim] at h
    cases h

/-- A claim of a job takes it out of the queue, or leaves the statuses alone. -/
theorem status?_claim (id other : JobId) (store : Store) :
    (store.claim other).2.status? id = store.status? id ∨
      other = id ∧ (store.claim id).1 = true := by
  rcases claim_cases other store with ⟨job, hfind, hqueued, hclaim⟩ | hclaim
  · by_cases hother : other = id
    · subst hother
      exact .inr ⟨rfl, by rw [hclaim]⟩
    · refine .inl ?_
      rw [hclaim]
      exact status?_update_ne hother Job.taken (fun _ => rfl) store
  · exact .inl (by rw [hclaim])

theorem status?_insert {createdAt : Int} {draft : Draft} {job : Job} {after : Store}
    (h : store.insert other createdAt draft = .ok (job, after)) (id : JobId) :
    after.status? id = store.status? id ∨
      store.status? id = none ∧ after.status? id = some .queued := by
  obtain ⟨hrow, hnew, rfl⟩ := insert_eq_ok h
  obtain ⟨hid, hqueued, -⟩ := Job.consistent_of_row hrow
  have hafter : (⟨store.jobs ++ [job]⟩ : Store).find? id =
      (store.find? id).or (if job.id = id then some job else none) := by
    rw [find?, List.find?_append, find?]
    by_cases hsame : job.id = id <;> simp [hsame]
  rw [status?, status?, hafter]
  cases hfind : store.find? id with
  | some row => exact .inl rfl
  | none =>
      by_cases hsame : job.id = id
      · rw [if_pos hsame]
        exact .inr ⟨rfl, congrArg some hqueued⟩
      · rw [if_neg hsame]
        exact .inl rfl

theorem move_claim (id other : JobId) (store : Store) :
    Status.Move (store.status? id) ((store.claim other).2.status? id) := by
  rcases status?_claim id other store with hsame | ⟨rfl, hclaim⟩
  · rw [hsame]
    exact .stay _
  · obtain ⟨hqueued, hprocessing⟩ := status?_of_claim hclaim
    rw [hqueued, hprocessing]
    exact .claimed

theorem move_insert {createdAt : Int} {draft : Draft} {job : Job} {after : Store}
    (h : store.insert other createdAt draft = .ok (job, after)) (id : JobId) :
    Status.Move (store.status? id) (after.status? id) := by
  rcases status?_insert h id with hsame | ⟨hnone, hqueued⟩
  · rw [hsame]
    exact .stay _
  · rw [hnone, hqueued]
    exact .added

/-! ## Jobs that are worked on -/

/-- What a task that works on a job writes; the second argument says whether it goes on, which
    it does after the completion of its row only if it has not heard of it. -/
inductive Writes (overlooked : Prop) (id : JobId) (store : Store) : Bool → Store → Prop
  | idle (goesOn : Bool) : Writes overlooked id store goesOn store
  | reported (goesOn : Bool) (progress : Number.Scalar) :
      Writes overlooked id store goesOn (store.update id (Job.reported progress))
  | finished (goesOn : Bool) (url : Option String) (h : goesOn = true → overlooked) :
      Writes overlooked id store goesOn (store.update id (Job.finished url))
  | failed (message : Option String) :
      Writes overlooked id store false (store.update id (Job.failed message))

/-- Whether at most one of these tasks works on a job, and only while it is processing. -/
structure Held (id : JobId) (store : Store) (jobs : List JobId) : Prop where
  once : jobs.count id ≤ 1
  processing : id ∈ jobs → store.status? id = some .processing

namespace Held

variable {id other : JobId} {store : Store} {jobs first last : List JobId}

theorem claim (h : Held id store jobs) (other : JobId) : Held id (store.claim other).2 jobs := by
  refine ⟨h.once, fun hmem => ?_⟩
  rcases status?_claim id other store with hsame | ⟨rfl, hclaim⟩
  · exact hsame.trans (h.processing hmem)
  · exact (status?_of_claim hclaim).2

theorem insert {createdAt : Int} {draft : Draft} {job : Job} {after : Store}
    (h : Held id store jobs) (hinsert : store.insert other createdAt draft = .ok (job, after)) :
    Held id after jobs := by
  refine ⟨h.once, fun hmem => ?_⟩
  have hbefore := h.processing hmem
  rcases status?_insert hinsert id with hsame | ⟨hnone, -⟩
  · exact hsame.trans hbefore
  · rw [hnone] at hbefore
    cases hbefore

theorem keep {after : Store} (h : Held id store jobs)
    (hsame : after.status? id = store.status? id) :
    Held id after jobs :=
  ⟨h.once, fun hmem => hsame.trans (h.processing hmem)⟩

/-- A job that is won was queued, so nobody worked on it. -/
theorem won (h : Held id store (first ++ last)) (hclaim : (store.claim other).1 = true) :
    Held id (store.claim other).2 (first ++ other :: last) := by
  have hperm : (first ++ other :: last).Perm (other :: (first ++ last)) := List.perm_middle
  by_cases hother : other = id
  · subst hother
    obtain ⟨hqueued, hprocessing⟩ := status?_of_claim hclaim
    have hnew : (first ++ last).count other = 0 := by
      refine List.count_eq_zero.mpr fun hmem => ?_
      rw [h.processing hmem] at hqueued
      cases hqueued
    have honce : (first ++ other :: last).count other = 1 := by
      rw [hperm.count_eq, List.count_cons_self, hnew]
    exact ⟨Nat.le_of_eq honce, fun _ => hprocessing⟩
  · have hclaimed := h.claim other
    refine ⟨?_, fun hmem => hclaimed.processing ?_⟩
    · rw [hperm.count_eq, List.count_cons_of_ne hother]
      exact hclaimed.once
    · exact (List.mem_cons.mp (hperm.mem_iff.mp hmem)).resolve_left (Ne.symm hother)

/-- The work on a job is over as soon as its row has come to an end. -/
theorem ended (h : Held id store (first ++ id :: last)) {change : Job → Job}
    (hid : ∀ job, (change job).id = job.id) {ending : Status}
    (hending : ∀ job, (change job).status = ending)
    (hmove : Status.Move (some .processing) (some ending)) :
    Held id (store.update id change) (first ++ last) ∧
      Status.Move (store.status? id) ((store.update id change).status? id) := by
  have hperm : (first ++ id :: last).Perm (id :: (first ++ last)) := List.perm_middle
  have hprocessing := h.processing (hperm.mem_iff.mpr List.mem_cons_self)
  have hafter : (store.update id change).status? id = some ending := by
    obtain ⟨job, hfind, -⟩ := Option.map_eq_some_iff.mp hprocessing
    rw [status?_update_self id change hid, hfind, Option.map_some, hending]
  have hnone : (first ++ last).count id = 0 := by
    have honce := h.once
    rw [hperm.count_eq, List.count_cons_self] at honce
    omega
  refine ⟨⟨?_, fun hmem => absurd hmem (List.count_eq_zero.mp hnone)⟩, ?_⟩
  · rw [hnone]
    exact Nat.zero_le 1
  · rw [hprocessing, hafter]
    exact hmove

/-- A write of a task keeps to the moves, and only a task that goes on still works on its
    job. -/
theorem work {overlooked : Prop} {goesOn : Bool} {after : Store}
    (h : Held id store (first ++ other :: last)) (hheard : other = id → ¬ overlooked)
    (hwrites : Writes overlooked other store goesOn after) :
    Held id after (first ++ ((if goesOn then [other] else []) ++ last)) ∧
      Status.Move (store.status? id) (after.status? id) := by
  have hperm : (first ++ other :: last).Perm (other :: (first ++ last)) := List.perm_middle
  have hfewer : (first ++ ((if goesOn then [other] else []) ++ last)).Sublist
      (first ++ other :: last) := by
    refine List.Sublist.append_left ?_ first
    cases goesOn with
    | true => exact List.Sublist.refl _
    | false => exact List.sublist_cons_self other last
  have honce : (first ++ ((if goesOn then [other] else []) ++ last)).count id ≤ 1 :=
    Nat.le_trans (hfewer.count_le id) h.once
  -- a write that leaves the status of the job alone
  have hkept : after.status? id = store.status? id →
      Held id after (first ++ ((if goesOn then [other] else []) ++ last)) ∧
        Status.Move (store.status? id) (after.status? id) := by
    intro hsame
    rw [hsame]
    refine ⟨⟨honce, fun hmem => ?_⟩, .stay _⟩
    exact hsame.trans (h.processing (hfewer.subset hmem))
  cases hwrites with
  | idle => exact hkept rfl
  | reported _ progress => exact hkept (status?_reported id other progress store)
  | finished _ url hgoesOn =>
      by_cases hother : other = id
      · subst hother
        have hover : goesOn = false := Bool.eq_false_iff.mpr fun hgoes => hheard rfl (hgoesOn hgoes)
        rw [hover]
        exact h.ended (fun _ => rfl) (fun _ => rfl) .completed
      · exact hkept (status?_update_ne hother (Job.finished url) (fun _ => rfl) store)
  | failed message =>
      by_cases hother : other = id
      · subst hother
        exact h.ended (fun _ => rfl) (fun _ => rfl) .failed
      · exact hkept (status?_update_ne hother (Job.failed message) (fun _ => rfl) store)

end Held

end Store

end Montage.Jobs

namespace Montage.Worker

open Montage.Jobs Montage.Storage

/-! ## Tasks -/

/-- Whether a task does not hear that its row was completed: the statement is carried out, but
    the answer is a failure, or the task is cancelled before it comes. -/
def Task.overlooks (event : TaskEvent) (task : Task) : Bool :=
  match event, task.phase with
  | .completionWritten (.raises _ true), .completing _ => true
  | .cancel true, .completing _ => true
  | _, _ => false

/-- Whether an event can happen to a task: it is cancelled only if somebody has asked for it. -/
def Task.accepts (event : TaskEvent) (task : Task) : Bool :=
  match event with
  | .cancel _ => task.cancelRequested
  | _ => true

namespace Task

variable {overlooked : Prop} {task : Task} {goesOn : Bool} {store : Store} {world : World}

theorem writes_change (h : ∀ after, task.pendingWrite world.store = .ok after →
      Store.Writes overlooked task.job.id world.store goesOn after) :
    Store.Writes overlooked task.job.id world.store goesOn
      (world.change task.pendingWrite).2.store := by
  cases hchange : task.pendingWrite world.store with
  | ok after =>
      rw [World.change_of_ok hchange]
      exact h after hchange
  | error fault =>
      rw [World.change_of_error hchange]
      exact .idle goesOn

theorem writes_write (reply : Reply) (h : ∀ after, task.pendingWrite world.store = .ok after →
      Store.Writes overlooked task.job.id world.store goesOn after) :
    Store.Writes overlooked task.job.id world.store goesOn
      (world.write task.pendingWrite reply).2.store := by
  rcases World.store_write task.pendingWrite reply world with hsame | hwritten
  · rw [hsame]
    exact .idle goesOn
  · exact h _ hwritten

/-- What the statement writes that a task waits for. -/
theorem writes_pendingWrite {after : Store} (hwritten : task.pendingWrite store = .ok after)
    (hcompletes : ∀ url, task.phase = .completing url → goesOn = true → overlooked)
    (hfails : ∀ message cancelled, task.phase = .failing message cancelled → goesOn = false) :
    Store.Writes overlooked task.job.id store goesOn after := by
  cases hphase : task.phase with
  | rendering run =>
      cases hstage : run.stage with
      | reporting progress =>
          simp only [pendingWrite, hphase, hstage] at hwritten
          obtain ⟨value, -, rfl⟩ := Store.setProgress_eq_ok hwritten
          exact .reported goesOn value
      | _ =>
          simp only [pendingWrite, hphase, hstage] at hwritten
          exact Except.ok.inj hwritten ▸ .idle goesOn
  | completing url =>
      simp only [pendingWrite, hphase] at hwritten
      obtain ⟨value, -, rfl⟩ := Store.markCompleted_eq_ok hwritten
      exact .finished goesOn value (hcompletes url hphase)
  | failing message cancelled =>
      simp only [pendingWrite, hphase] at hwritten
      obtain ⟨value, -, rfl⟩ := Store.markFailed_eq_ok hwritten
      rw [hfails message cancelled hphase]
      exact .failed value
  | _ =>
      simp only [pendingWrite, hphase] at hwritten
      exact Except.ok.inj hwritten ▸ .idle goesOn

theorem writes_conclude (config : Config) (ending : Ending)
    (h : Store.Writes overlooked task.job.id store false world.store) :
    Store.Writes overlooked task.job.id store (!(task.conclude config ending world).2.isOver)
      (task.conclude config ending world).1.store := by
  rw [conclude, World.store_onFiles]
  exact h

theorem writes_completion (config : Config) {url : Json} (hphase : task.phase = .completing url)
    (reply : Reply) (world : World) :
    let result := match world.write task.pendingWrite reply with
      | (none, world) => task.conclude config .finished world
      | (some fault, world) => (world, task.fail fault)
    Store.Writes (task.overlooks (.completionWritten reply) = true) task.job.id world.store
      (!result.2.isOver) result.1.store := by
  cases reply with
  | genuine =>
      cases hchange : task.pendingWrite world.store with
      | ok after =>
          rw [World.write, World.change_of_ok hchange]
          refine writes_conclude config .finished (writes_pendingWrite hchange ?_ fun _ _ _ => rfl)
          intro _ _ hgoes
          cases hgoes
      | error fault =>
          rw [World.write, World.change_of_error hchange]
          exact .idle _
  | «instead» value => exact writes_conclude config .finished (.idle false)
  | raises fault committed =>
      cases committed with
      | true =>
          refine writes_change fun after hwritten => writes_pendingWrite hwritten ?_ ?_
          · intro _ _ _
            simp [overlooks, hphase]
          · rw [hphase]
            rintro _ _ ⟨⟩
      | false => exact .idle _

theorem writes_cancelAt (config : Config) (committed : Bool) (world : World) :
    Store.Writes (task.overlooks (.cancel committed) = true) task.job.id world.store
      (!(task.cancelAt config committed world).2.isOver)
      (task.cancelAt config committed world).1.store := by
  -- whether the task goes on matters only if it was about to record a failure
  have hwrites : ∀ goesOn, (∀ message cancelled, task.phase = .failing message cancelled →
      goesOn = false) → Store.Writes (task.overlooks (.cancel committed) = true) task.job.id
        world.store goesOn
        (if committed then (world.change task.pendingWrite).2 else world).store := by
    intro goesOn hfails
    cases committed with
    | true =>
        refine writes_change fun _ hwritten => writes_pendingWrite hwritten ?_ hfails
        intro url hphase _
        simp [overlooks, hphase]
    | false => exact .idle goesOn
  unfold cancelAt
  dsimp only
  split
  next hphase => exact hwrites _ (by rw [hphase]; nofun)
  next hphase => exact hwrites _ (by rw [hphase]; nofun)
  next => exact writes_conclude config .cancelled (hwrites false fun _ _ _ => rfl)
  next hphase => exact hwrites _ (by rw [hphase]; nofun)
  next hfailing _ =>
    exact hwrites _ fun message cancelled h => absurd h (hfailing message cancelled)

/-- What a step of a task writes: it is over as soon as its row has come to an end, unless it
    does not hear of it. -/
theorem writes_step (config : Config) (event : TaskEvent) (world : World) (task : Task) :
    Store.Writes (task.overlooks event = true) task.job.id world.store
      (!(task.step config event world).2.isOver) (task.step config event world).1.store := by
  have hstay : ∀ {overlooked : Prop} {goesOn : Bool} {after : World},
      after.store = world.store →
        Store.Writes overlooked task.job.id world.store goesOn after.store := by
    intro overlooked goesOn after hsame
    rw [hsame]
    exact .idle goesOn
  unfold step
  split
  · split
    next hmake => exact hstay (World.store_of_onFiles hmake)
    next hmake => exact hstay (World.store_of_onFiles hmake)
  · split
    next text after hread =>
      exact hstay ((store_useText config text after task).trans (store_of_readReply hread))
    next hread => exact hstay (store_of_readReply hread)
  · split
    · exact hstay rfl
    · exact hstay rfl
  · exact hstay rfl
  · exact hstay rfl
  · exact hstay rfl
  next hphase =>
    split
    · refine writes_write _ fun after hwritten => writes_pendingWrite hwritten ?_ ?_
      · rw [hphase]
        nofun
      · rw [hphase]
        nofun
    · exact hstay rfl
  · split
    next hupload => exact hstay (store_of_uploadReply hupload)
    next hupload => exact hstay (store_of_uploadReply hupload)
  · split
    next hsign => exact hstay (store_of_signReply hsign)
    next hsign => exact hstay (store_of_signReply hsign)
  next reply url hphase => exact writes_completion config hphase reply world
  next reply message cancelled hphase =>
    refine writes_conclude config _ (writes_write reply fun after hwritten => ?_)
    refine writes_pendingWrite hwritten ?_ fun _ _ _ => rfl
    rw [hphase]
    nofun
  next committed => exact writes_cancelAt config committed world
  · exact hstay rfl

end Task

/-! ## Fleets -/

theorem Statement.status?_setProgress (id other : JobId) (progress : Json) (world : World) :
    ((Statement.setProgress other progress).run world).store.status? id =
      world.store.status? id := by
  rw [run]
  cases hset : world.store.setProgress other progress with
  | ok after =>
      obtain ⟨value, -, rfl⟩ := Store.setProgress_eq_ok hset
      rw [World.change_of_ok hset]
      exact Store.status?_reported id other value world.store
  | error fault => rw [World.change_of_error hset]

/-- The job whose completion an event makes a task overlook. -/
def State.overlooked? (event : Event) (state : State) : Option JobId :=
  match event with
  | .task number event =>
    (state.openTask? number).bind fun task =>
      if task.accepts event && task.overlooks event then some task.job.id else none
  | _ => none

/-- Whether an action leaves the ends of jobs to the workers. -/
def Action.LeavesEnds : Action → Prop
  | .statement (.markCompleted _ _) | .statement (.markFailed _ _) => False
  | _ => True

namespace Fleet

variable {fleet : Fleet} {actions : List Action} {id : JobId}

def status? (id : JobId) (fleet : Fleet) : Option Status :=
  fleet.world.store.status? id

/-- The statuses of a job in a run, each as often as it was entered. -/
def statuses (id : JobId) : List Action → Fleet → List Status
  | [], fleet => (fleet.status? id).toList
  | action :: rest, fleet =>
    let later := statuses id rest (fleet.step action)
    if (fleet.step action).status? id = fleet.status? id then later
    else (fleet.status? id).toList ++ later

def overlooked? (action : Action) (fleet : Fleet) : Option JobId :=
  match action with
  | .worker index event =>
    fleet.members[index]?.bind fun member => member.state.overlooked? event
  | _ => none

/-- The jobs whose completion was overlooked in a run. -/
def overlooked : List Action → Fleet → List JobId :=
  history overlooked?

theorem overlooked?_of_task {index number : Nat} {event : TaskEvent} {member : Member}
    {task start : Task} (hmember : fleet.members[index]? = some member)
    (hfind : member.state.openTask? number = some task)
    (hcancel : ∀ committed, event = .cancel committed → task.cancelRequested = true)
    (hstart : task.Matches start) (h : start.overlooks event = true) :
    fleet.overlooked? (.worker index (.task number event)) = some task.job.id := by
  have hoverlooks : task.overlooks event = true := by
    unfold Task.overlooks at h ⊢
    rw [← hstart.phase]
    exact h
  have haccepts : task.accepts event = true := by
    cases event with
    | cancel committed => exact hcancel committed rfl
    | _ => rfl
  simp only [overlooked?, hmember, Option.bind_some, State.overlooked?, hfind, haccepts,
    hoverlooks, Bool.and_self, if_true]

/-- Every action moves the status of a job as it may move, and as long as no completion of the
    job is overlooked, at most one task works on it, and only while it is processing.  Other
    work may be in hand besides that of the tasks, and stays so. -/
theorem held_step (others : List JobId) (hnumbered : fleet.Numbered) {action : Action}
    (hgenuine : action.IsGenuine) (hends : action.LeavesEnds)
    (hheard : fleet.overlooked? action ≠ some id)
    (h : Store.Held id fleet.world.store (others ++ openJobs fleet.tasks)) :
    Store.Held id (fleet.step action).world.store
        (others ++ openJobs (fleet.step action).tasks) ∧
      Status.Move (fleet.status? id) ((fleet.step action).status? id) := by
  have hmove := move_step hnumbered hgenuine
  generalize fleet.step action = after at hmove ⊢
  unfold status?
  cases hmove with
  | still hworld htasks =>
      rw [hworld, openJobs_of_matches htasks]
      exact ⟨h, .stay _⟩
  | claimed other hworld htasks =>
      rw [hworld, htasks]
      exact ⟨h.claim other, Store.move_claim id other _⟩
  | won job number hclaim hworld hbefore htasks =>
      rw [hbefore, openJobs_append, ← List.append_assoc] at h
      rw [hworld, htasks, openJobs_append, openJobs_cons, ← List.append_assoc]
      exact ⟨h.won hclaim, Store.move_claim id job.id _⟩
  | @task index number event _ member task start _ _ hmember hfind hcancel hstart hbefore
      hworld htasks =>
      have hopen : task.isOver = false := (State.openTask?_eq_some hfind).2.2
      have hjob := (start.keeps_step member.config event fleet.world).later.job.trans hstart.job
      have hwrites := Task.writes_step member.config event fleet.world start
      rw [hbefore, openJobs_append, openJobs_cons, hopen, ← List.append_assoc] at h
      rw [hworld, htasks, openJobs_append, openJobs_cons, hjob, ← List.append_assoc]
      refine h.work (fun hid hoverlooks => hheard ?_) (hstart.job ▸ hwrites)
      rw [← hid]
      exact overlooked?_of_task hmember hfind hcancel hstart hoverlooks
  | @submission _ event _ submission hsubmission hworld htasks =>
      rw [hworld, htasks]
      rcases Submission.store_step fleet.input event fleet.world submission with
        hsame | ⟨createdAt, job, hinsert⟩
      · rw [hsame]
        exact ⟨h, .stay _⟩
      · exact ⟨h.insert hinsert, Store.move_insert hinsert id⟩
  | @statement statement _ hworld htasks =>
      rw [hworld, htasks]
      cases statement with
      | claim other => exact ⟨h.claim other, Store.move_claim id other _⟩
      | setProgress other progress =>
          have hsame := Statement.status?_setProgress id other progress fleet.world
          rw [hsame]
          exact ⟨h.keep hsame, .stay _⟩
      | markCompleted => exact hends.elim
      | markFailed => exact hends.elim

theorem follows_statuses (hnumbered : fleet.Numbered)
    (hgenuine : ∀ action ∈ actions, action.IsGenuine)
    (hends : ∀ action ∈ actions, action.LeavesEnds) (hheard : id ∉ overlooked actions fleet)
    (h : Store.Held id fleet.world.store (openJobs fleet.tasks)) :
    Status.Follows (statuses id actions fleet) (fleet.status? id) := by
  induction actions generalizing fleet with
  | nil => exact Status.follows_self (fleet.status? id)
  | cons action rest ih =>
      obtain ⟨hgenuineNow, hgenuineRest⟩ := List.forall_mem_cons.mp hgenuine
      obtain ⟨hendsNow, hendsRest⟩ := List.forall_mem_cons.mp hends
      have hsplit : overlooked (action :: rest) fleet =
          (fleet.overlooked? action).toList ++ overlooked rest (fleet.step action) := rfl
      rw [hsplit, List.mem_append, not_or, Option.mem_toList] at hheard
      have hturn := turn_step hgenuineNow hnumbered
      obtain ⟨hnext, hmove⟩ := held_step [] hnumbered hgenuineNow hendsNow hheard.1 h
      have hlater := ih hturn.numbered hgenuineRest hendsRest hheard.2 hnext
      rw [statuses]
      by_cases hsame : (fleet.step action).status? id = fleet.status? id
      · rw [if_pos hsame, ← hsame]
        exact hlater
      · rw [if_neg hsame]
        exact Status.follows_of_move hmove hsame hlater

/-- A job that is not in the table yet or still queued goes through a beginning of queued,
    processing and completed, or of queued, processing and failed, as long as no task
    overlooks that its row was completed. -/
theorem run_statuses (hfresh : fleet.IsFresh) (hgenuine : ∀ action ∈ actions, action.IsGenuine)
    (hends : ∀ action ∈ actions, action.LeavesEnds)
    (hstart : fleet.status? id = none ∨ fleet.status? id = some .queued)
    (hheard : id ∉ overlooked actions fleet) :
    statuses id actions fleet <+: [.queued, .processing, .completed] ∨
      statuses id actions fleet <+: [.queued, .processing, .failed] := by
  have hheld : Store.Held id fleet.world.store (openJobs fleet.tasks) := by
    rw [tasks_of_isFresh hfresh]
    exact ⟨Nat.zero_le 1, nofun⟩
  have hfollows := follows_statuses (numbered_of_isFresh hfresh) hgenuine hends hheard hheld
  rcases hstart with hnone | hqueued
  · rw [hnone] at hfollows
    exact hfollows
  · rw [hqueued] at hfollows
    exact hfollows

theorem run_statuses_sampleExports :
    statuses ⟨7⟩ sampleExports samplePair = [.queued, .processing, .completed] ∧
      (statuses ⟨7⟩ sampleExports samplePair <+: [.queued, .processing, .completed] ∨
        statuses ⟨7⟩ sampleExports samplePair <+: [.queued, .processing, .failed]) := by
  have hfresh : samplePair.IsFresh := by
    simp [samplePair, sampleFleet, IsFresh]
  have hgenuine : ∀ action ∈ sampleExports, action.IsGenuine := by
    simp [sampleExports, Action.IsGenuine, State.Genuine]
  have hends : ∀ action ∈ sampleExports, action.LeavesEnds := by
    simp [sampleExports, Action.LeavesEnds]
  have hheard : ⟨7⟩ ∉ overlooked sampleExports samplePair := by
    decide +kernel
  exact ⟨by decide +kernel, run_statuses hfresh hgenuine hends (.inr (by decide)) hheard⟩

/-- A worker exports a timeline without elements.  The row is completed, but the answer to this
    statement gets lost. -/
def sampleLostAnswer : List Action :=
  [.worker 0 .poll, .worker 0 (.fetched 0 .genuine), .worker 0 (.claimed 0 .genuine),
   .worker 0 (.task 0 .begin), .worker 0 (.task 0 (.read (.instead
     (.str "\x7b\"project\": \x7b\"canvasSize\": \x7b\"width\": 640, \"height\": 360\x7d\x7d\x7d")))),
   .worker 0 (.task 0 (.launched none)), .worker 0 (.task 0 (.engine .endOfStream)),
   .worker 0 (.task 0 (.engine (.exited 0))), .worker 0 (.task 0 (.uploaded (.instead .null))),
   .worker 0 (.task 0 (.signed (.instead (.str "https://media.test/export.mp4")))),
   .worker 0 (.task 0 (.completionWritten (.raises (.unreachable "connection lost") true))),
   .worker 0 (.task 0 (.failureWritten .genuine))]

/-- The failure is written over the completed row. -/
theorem statuses_sampleLostAnswer :
    statuses ⟨7⟩ sampleLostAnswer samplePair = [.queued, .processing, .completed, .failed] ∧
      ¬ statuses ⟨7⟩ sampleLostAnswer samplePair <+: [.queued, .processing, .completed] ∧
      ¬ statuses ⟨7⟩ sampleLostAnswer samplePair <+: [.queued, .processing, .failed] := by
  have hstatuses : statuses ⟨7⟩ sampleLostAnswer samplePair =
      [.queued, .processing, .completed, .failed] := by
    decide +kernel
  rw [hstatuses]
  decide

end Fleet

end Montage.Worker
