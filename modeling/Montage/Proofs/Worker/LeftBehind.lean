/-
  Montage.Proofs.Worker.LeftBehind

  What becomes of the jobs that a worker takes out of the queue.  A task works on such a job
  until the row says how the job ended, unless nobody is left to write that: the worker has not
  heard that its claim succeeded, or the task was forsaken.  A job that is left behind so is
  never taken up again.
-/
import Montage.Proofs.Worker.Forsaken

namespace Montage.Worker

open Montage.Jobs

/-! ## Claims -/

namespace State

variable {config : Config} {state : State} {event : Event} {id : JobId} {number : Nat}

/-- The job that a poll waits to claim, if the table would give it away. -/
def claimable? (number : Nat) (state : State) : Option JobId :=
  match (state.poll? number).map Poll.point with
  | some (.claiming job) => if (state.world.store.claim job.id).1 then some job.id else none
  | _ => none

/-- The job that is claimed without the worker hearing of it: the claim has had its effect, but
    the answer is a failure, or the loop is cancelled before the answer comes. -/
def unheard? (event : Event) (state : State) : Option JobId :=
  match event with
  | .claimed number (.raises _ true) => state.claimable? number
  | .loopCancelled true =>
    match state.loop with
    | .passing number => if state.loopCancelled then state.claimable? number else none
    | _ => none
  | _ => none

/-- The job that nobody is left to tell the end of. -/
def leftBehind? (event : Event) (state : State) : Option JobId :=
  (state.unheard? event).or (state.forsaken? event)

theorem exists_claiming (h : state.claimable? number = some id) :
    ∃ poll job, state.poll? number = some poll ∧ poll.point = .claiming job ∧ job.id = id ∧
      (state.world.store.claim id).1 = true := by
  unfold claimable? at h
  split at h
  next job hpoint =>
    obtain ⟨poll, hpoll, hclaiming⟩ := Option.map_eq_some_iff.mp hpoint
    split at h
    next hclaim =>
      cases h
      exact ⟨poll, job, hpoll, hclaiming, rfl, hclaim⟩
    next => cases h
  next => cases h

theorem claimable?_of_claiming {poll : Poll} {job : Job} (hpoll : state.poll? number = some poll)
    (hpoint : poll.point = .claiming job) (hclaim : (state.world.store.claim job.id).1 = true) :
    state.claimable? number = some job.id := by
  simp only [claimable?, hpoll, Option.map_some, hpoint, hclaim, if_true]

theorem onlyPolls_cancelPoll_claiming {poll : Poll} {job : Job} (hpoint : poll.point = .claiming job)
    (state : State) : OnlyPolls (state.claimRow job.id).2 (state.cancelPoll poll true) := by
  unfold cancelPoll
  rw [hpoint]
  exact (onlyPolls_setPoint _ _ _).after (onlyPolls_release _)

theorem cancelLoop_of_passing {poll : Poll} (hloop : state.loop = .passing number)
    (hpoll : state.poll? number = some poll) (committed : Bool) :
    state.cancelLoop committed =
      { ({ state with loopCancelled := false } : State).cancelPoll poll committed with
        loop := .off } := by
  obtain ⟨world, inFlight, tasks, polls, holder, queue, wakeup, loop, loopCancelled, stop⟩ := state
  dsimp only at hloop
  subst hloop
  have hfind : polls.find? (fun poll => poll.number = number) = some poll := hpoll
  simp only [cancelLoop, poll?, hfind]

/-- A claim that nobody hears of takes the job out of the queue and does nothing else. -/
theorem sameJobs_unheard (h : state.unheard? event = some id) (config : Config) :
    (state.world.store.claim id).1 = true ∧
      SameJobs (state.claimRow id).2 (state.step config event) := by
  unfold unheard? at h
  split at h
  next number fault =>
    obtain ⟨poll, job, hpoll, hpoint, rfl, hclaim⟩ := exists_claiming h
    refine ⟨hclaim, ?_⟩
    simp only [step, hpoll, hpoint, useClaim]
    exact (onlyPolls_concludeClaim config poll _ _).toSameJobs
  next =>
    split at h
    next number hloop =>
      split at h
      next hcancelled =>
        obtain ⟨poll, job, hpoll, hpoint, rfl, hclaim⟩ := exists_claiming h
        have hpolls := onlyPolls_cancelPoll_claiming hpoint { state with loopCancelled := false }
        rw [step, if_pos hcancelled, cancelLoop_of_passing hloop hpoll]
        exact ⟨hclaim, hpolls.world, hpolls.tasks, hpolls.inFlight⟩
      next => cases h
    next => cases h
  next => cases h

theorem store_useClaim (config : Config) (poll : Poll) (job : Job) (reply : Reply)
    (state : State) : (state.useClaim config poll job reply).world.store =
      if reply.takesEffect then (state.world.store.claim job.id).2 else state.world.store := by
  have hconclude : ∀ (result : Except Fault (Option JobId)) (before : State),
      (before.concludeClaim config poll result).world = before.world := fun result before =>
    (onlyPolls_concludeClaim config poll result before).world
  unfold useClaim settleClaim
  cases reply with
  | genuine =>
      dsimp only
      split <;> (rw [hconclude]; rfl)
  | «instead» value =>
      dsimp only
      split <;> (rw [hconclude]; rfl)
  | raises fault committed =>
      dsimp only
      rw [hconclude]
      cases committed <;> rfl

theorem won_or_unheard_of_claimed (hbefore : state.world.store.status? id = some .queued)
    {poll : Poll} {job : Job} (hpoll : state.poll? number = some poll)
    (hpoint : poll.point = .claiming job) {reply : Reply}
    (hafter : (state.useClaim config poll job reply).world.store.status? id = some .processing) :
    state.won? (.claimed number reply) = some id ∨
      state.unheard? (.claimed number reply) = some id := by
  rw [store_useClaim] at hafter
  by_cases heffect : reply.takesEffect = true
  · rw [if_pos heffect] at hafter
    obtain ⟨rfl, hclaim⟩ := Store.eq_of_claim hbefore hafter
    have hclaimable := claimable?_of_claiming hpoll hpoint hclaim
    cases reply with
    | genuine => exact .inl hclaimable
    | «instead» value => cases heffect
    | raises fault committed =>
        obtain rfl : committed = true := heffect
        exact .inr hclaimable
  · rw [if_neg heffect, hbefore] at hafter
    cases hafter

theorem world_collectJobs (cancelJobs : Bool) (state : State) :
    (state.collectJobs cancelJobs).world = state.world := by
  cases cancelJobs <;> rfl

/-- A job that an event takes out of the queue is won, or the worker does not hear of it. -/
theorem won_or_unheard (hbefore : state.world.store.status? id = some .queued)
    (hafter : (state.step config event).world.store.status? id = some .processing) :
    state.won? event = some id ∨ state.unheard? event = some id := by
  -- a step that leaves the table alone takes no job
  have hsame : (state.step config event).world ≠ state.world := by
    intro hsame
    rw [hsame, hbefore] at hafter
    cases hafter
  cases event with
  | claimed number reply =>
      -- only a poll that waits for its claim is answered
      cases hpoll : state.poll? number with
      | none =>
          refine absurd ?_ hsame
          simp only [step, hpoll]
      | some poll =>
          cases hpoint : poll.point with
          | claiming job =>
              simp only [step, hpoll, hpoint] at hafter
              exact won_or_unheard_of_claimed hbefore hpoll hpoint hafter
          | _ =>
              refine absurd ?_ hsame
              simp only [step, hpoll, hpoint]
  | task number event =>
      rcases stepTask_cases config number event state with hstay | ⟨task, requested, -, -, hstep⟩
      · exact absurd (congrArg State.world hstay) hsame
      · have hwrites := Task.writes_step config event state.world
          { task with cancelRequested := requested }
        rw [step, hstep, world_updateTask] at hafter
        obtain ⟨row, hfind, -⟩ := Option.map_eq_some_iff.mp hbefore
        -- a task writes how its job has ended, and never that it is being processed
        rcases Store.status?_writes hfind hwrites with hkept | hsettled
        · rw [hkept, hbefore] at hafter
          cases hafter
        · exact absurd hafter hsettled.ne_processing
  | loopCancelled committed =>
      by_cases hcancelled : state.loopCancelled = true
      · rw [step, if_pos hcancelled] at hafter hsame
        rcases sameJobs_cancelLoop committed state with
          hkept | ⟨number, poll, job, hloop, hpoll, hpoint, rfl, hclaimed⟩
        · exact absurd hkept.world hsame
        · rw [hclaimed.world] at hafter
          obtain ⟨rfl, hclaim⟩ := Store.eq_of_claim hbefore hafter
          refine .inr ?_
          simp only [unheard?, hloop, hcancelled, if_true]
          exact claimable?_of_claiming hpoll hpoint hclaim
      · refine absurd ?_ hsame
        rw [step, if_neg hcancelled]
  | stop cancelJobs =>
      refine absurd ?_ hsame
      unfold step
      dsimp only
      split
      · rfl
      · split
        · exact world_collectJobs cancelJobs state
        · rfl
  | stopCollects =>
      refine absurd ?_ hsame
      unfold step
      dsimp only
      split
      · split
        · exact world_collectJobs _ state
        · rfl
      · rfl
  | stopFinishes =>
      refine absurd ?_ hsame
      unfold step
      dsimp only
      split
      · split <;> rfl
      · rfl
  | _ =>
      refine absurd (sameJobs_step config ?_ state).world hsame
      exact trivial

/-- A job that is won gets a task. -/
theorem openTask?_of_won (hnumbered : state.Numbered) (hwon : state.won? event = some id)
    (config : Config) :
    ∃ task, (state.step config event).openTask? state.tasks.length = some task ∧
      task.job.id = id := by
  have hchange := change_step config event state
  generalize state.step config event = after at hchange ⊢
  cases hchange with
  | idle hsame hidle =>
      rw [hidle.1] at hwon
      cases hwon
  | @won number after job hclaim hjob hsame =>
      obtain rfl := Option.some.inj (hjob.symm.trans hwon)
      -- the numbers of the tasks before are smaller
      have hnew : state.task? state.tasks.length = none := by
        refine List.find?_eq_none.mpr fun task htask => ?_
        have hmem : task.number ∈ state.tasks.map Task.number := List.mem_map_of_mem htask
        rw [hnumbered, List.mem_range] at hmem
        simpa using Nat.ne_of_lt hmem
      refine ⟨{ number := state.tasks.length, job }, ?_, rfl⟩
      have htasks : after.tasks = state.tasks ++ [{ number := state.tasks.length, job }] :=
        hsame.tasks
      rw [task?] at hnew
      rw [openTask?, task?, htasks, List.find?_append, hnew]
      simp [Task.isOver]
  | lost lostId hsame hidle =>
      rw [hidle.1] at hwon
      cases hwon
  | stubbed job hsame => cases hwon
  | task number event => cases hwon
  | stopping cancelJobs hidle =>
      rw [hidle.1] at hwon
      cases hwon
  | stopped => cases hwon

end State

/-! ## Fleets -/

namespace Fleet

variable {fleet : Fleet} {actions : List Action} {action : Action} {id : JobId}
  {index number : Nat}

/-- The job that an action leaves behind. -/
def leftBehind? (action : Action) (fleet : Fleet) : Option JobId :=
  match action with
  | .worker index event =>
    fleet.members[index]?.bind fun member =>
      State.leftBehind? event { member.state with world := fleet.world }
  | _ => none

/-- The jobs that are left behind in a run. -/
def leftBehind : List Action → Fleet → List JobId :=
  history leftBehind?

/-- Whether a task of a worker works on a job. -/
def WorksOn (index number : Nat) (id : JobId) (fleet : Fleet) : Prop :=
  ∃ task, (fleet.state index).openTask? number = some task ∧ task.job.id = id

/-- Whether a worker takes a job out of the queue in a run, by a claim whose answer it may not
    have heard. -/
def Takes (index : Nat) (id : JobId) (actions : List Action) (fleet : Fleet) : Prop :=
  ∃ earlier event later, actions = earlier ++ .worker index event :: later ∧
    (fleet.run earlier).status? id = some .queued ∧
    ((fleet.run earlier).step (.worker index event)).status? id = some .processing

theorem history_append (effect? : Action → Fleet → Option JobId) (earlier later : List Action)
    (fleet : Fleet) : history effect? (earlier ++ later) fleet =
      history effect? earlier fleet ++ history effect? later (fleet.run earlier) := by
  induction earlier generalizing fleet with
  | nil => rfl
  | cons action rest ih =>
      rw [List.cons_append, history, history, ih, List.append_assoc]
      rfl

/-- A task that works on a job goes on, or has settled the row, or was forsaken. -/
theorem worksOn_step (hnumbered : fleet.Numbered) (hgenuine : action.IsGenuine)
    (hleft : fleet.world.store.HasLeft id) (h : fleet.WorksOn index number id) :
    (fleet.step action).WorksOn index number id ∨ (fleet.step action).world.store.IsSettled id ∨
      fleet.leftBehind? action = some id := by
  rcases state_step index action fleet with hsame | ⟨event, member, rfl, hmember⟩
  · refine .inl ?_
    rw [WorksOn, hsame]
    exact h
  · obtain ⟨task, hfind, rfl⟩ := h
    rw [state_of_member hmember] at hfind
    let start : State := { member.state with world := fleet.world }
    have hstart : start.openTask? number = some task := hfind
    have hmemberNumbered : start.Numbered := hnumbered member (List.mem_of_getElem? hmember)
    have hbehind : fleet.leftBehind? (.worker index event) = start.leftBehind? event := by
      simp only [leftBehind?, hmember, Option.bind_some, start]
    rw [WorksOn, state_worker hmember, world_worker hmember, hbehind]
    cases hnext : (start.step member.config event).openTask? number with
    | some next =>
        exact .inl ⟨next, rfl, State.job_of_openTask?_step hgenuine hmemberNumbered hstart hnext⟩
    | none =>
        refine .inr ((State.settled_or_forsaken hstart hleft hnext).imp_right fun hforsaken => ?_)
        have hunheard : start.unheard? event = none := by
          obtain ⟨taskEvent, rfl⟩ := State.exists_task_of_over hstart hnext
          rfl
        rw [State.leftBehind?, hunheard, hforsaken]
        rfl

theorem worksOn_run (hnumbered : fleet.Numbered) (hgenuine : ∀ action ∈ actions, action.IsGenuine)
    (hleft : fleet.world.store.HasLeft id) (h : fleet.WorksOn index number id) :
    (fleet.run actions).WorksOn index number id ∨ (fleet.run actions).world.store.IsSettled id ∨
      id ∈ leftBehind actions fleet := by
  induction actions generalizing fleet with
  | nil => exact .inl h
  | cons action rest ih =>
      obtain ⟨hnow, hrest⟩ := List.forall_mem_cons.mp hgenuine
      have hturn := turn_step hnow hnumbered
      have hsplit : leftBehind (action :: rest) fleet =
          (fleet.leftBehind? action).toList ++ leftBehind rest (fleet.step action) := rfl
      rw [hsplit, List.mem_append, Option.mem_toList]
      rcases worksOn_step hnumbered hnow hleft h with hworks | hsettled | hbehind
      · exact (ih hturn.numbered hrest (hturn.advances id hleft) hworks).imp_right
          (Or.imp_right .inr)
      · have hstays := isSettled_run hturn.numbered hrest hsettled
        exact .inr (.inl hstays)
      · exact .inr (.inr (.inl hbehind))

/-- A job that a worker takes out of the queue gets a task, or is left behind at once. -/
theorem worksOn_or_leftBehind (hnumbered : fleet.Numbered) {event : Event}
    (hbefore : fleet.status? id = some .queued)
    (hafter : (fleet.step (.worker index event)).status? id = some .processing) :
    (∃ number, (fleet.step (.worker index event)).WorksOn index number id) ∨
      fleet.leftBehind? (.worker index event) = some id := by
  cases hmember : fleet.members[index]? with
  | none =>
      have hsame : fleet.step (.worker index event) = fleet := by simp only [step, hmember]
      rw [hsame, hbefore] at hafter
      cases hafter
  | some member =>
      let start : State := { member.state with world := fleet.world }
      have hmemberNumbered : start.Numbered := hnumbered member (List.mem_of_getElem? hmember)
      rw [status?, world_worker hmember] at hafter
      rcases @State.won_or_unheard member.config start event id hbefore hafter with
        hwon | hunheard
      · obtain ⟨task, hfind, hid⟩ := State.openTask?_of_won hmemberNumbered hwon member.config
        refine .inl ⟨start.tasks.length, task, ?_, hid⟩
        rw [state_worker hmember]
        exact hfind
      · refine .inr ?_
        have hbehind : start.leftBehind? event = some id := by
          rw [State.leftBehind?, hunheard]
          rfl
        simpa only [leftBehind?, hmember, Option.bind_some] using hbehind

/-- In whatever order things happen, a job that a worker has taken out of the queue has come to
    an end, or a task of this worker works on it, or it was left behind. -/
theorem run_attended (hfresh : fleet.IsFresh) (hgenuine : ∀ action ∈ actions, action.IsGenuine)
    (htakes : Takes index id actions fleet) :
    (∃ number, (fleet.run actions).WorksOn index number id) ∨
      (fleet.run actions).world.store.IsSettled id ∨ id ∈ leftBehind actions fleet := by
  -- the run is cut at the event that takes the job
  obtain ⟨earlier, event, later, rfl, hbefore, hafter⟩ := htakes
  obtain ⟨hearlier, hrest⟩ := List.forall_mem_append.mp hgenuine
  obtain ⟨hevent, hlater⟩ := List.forall_mem_cons.mp hrest
  have hnumbered := (course (numbered_of_isFresh hfresh) hearlier).numbered
  have hturn := turn_step hevent hnumbered
  have hsplit : leftBehind (earlier ++ .worker index event :: later) fleet =
      leftBehind earlier fleet ++
        (((fleet.run earlier).leftBehind? (.worker index event)).toList ++
          leftBehind later ((fleet.run earlier).step (.worker index event))) :=
    history_append leftBehind? earlier (.worker index event :: later) fleet
  rw [run_append, hsplit]
  show (∃ number, WorksOn index number id
      (run later ((fleet.run earlier).step (.worker index event)))) ∨ _
  rcases worksOn_or_leftBehind hnumbered hbefore hafter with ⟨number, hworks⟩ | hbehind
  · have hleft := Store.hasLeft_of_status hafter nofun
    rcases worksOn_run hturn.numbered hlater hleft hworks with hworks | hsettled | hbehind
    · exact .inl ⟨number, hworks⟩
    · exact .inr (.inl hsettled)
    · exact .inr (.inr (by simp [hbehind]))
  · exact .inr (.inr (by simp [hbehind]))

/-! ## Jobs that nobody works on -/

/-- Whether a job is taken out of the queue and no task works on it. -/
structure Stranded (id : JobId) (fleet : Fleet) : Prop where
  processing : fleet.status? id = some .processing
  alone : id ∉ openJobs fleet.tasks

/-- A job is stranded if nobody but a task that there is not holds it. -/
theorem stranded_iff : fleet.Stranded id ↔
    Store.Held id fleet.world.store ([id] ++ openJobs fleet.tasks) := by
  have hcount : ([id] ++ openJobs fleet.tasks).count id = (openJobs fleet.tasks).count id + 1 :=
    List.count_cons_self
  constructor
  · rintro ⟨hprocessing, halone⟩
    refine ⟨?_, fun _ => hprocessing⟩
    have hnone := List.count_eq_zero.mpr halone
    exact Nat.le_of_eq (hcount.trans (congrArg (· + 1) hnone))
  · rintro ⟨honce, hprocessing⟩
    refine ⟨hprocessing List.mem_cons_self, List.count_eq_zero.mp ?_⟩
    omega

theorem mem_openJobs_of_openTask? {member : Member} (hmember : member ∈ fleet.members)
    {task : Task} (hfind : member.state.openTask? number = some task) :
    task.job.id ∈ openJobs fleet.tasks := by
  obtain ⟨hmem, -, hopen⟩ := State.openTask?_eq_some hfind
  have htask : task ∈ fleet.tasks := List.mem_flatMap.mpr ⟨member, hmember, hmem⟩
  exact List.mem_map.mpr ⟨task, List.mem_filter.mpr ⟨htask, by rw [hopen]; rfl⟩, rfl⟩

/-- Nobody overlooks the completion of a job that no task works on. -/
theorem overlooked?_ne (halone : id ∉ openJobs fleet.tasks) (action : Action) :
    fleet.overlooked? action ≠ some id := by
  intro hoverlooked
  unfold overlooked? at hoverlooked
  split at hoverlooked
  next index event =>
    obtain ⟨member, hmember, hevent⟩ := Option.bind_eq_some_iff.mp hoverlooked
    unfold State.overlooked? at hevent
    split at hevent
    next number taskEvent =>
      obtain ⟨task, hfind, hjob⟩ := Option.bind_eq_some_iff.mp hevent
      split at hjob
      next =>
        obtain rfl := Option.some.inj hjob
        exact halone (mem_openJobs_of_openTask? (List.mem_of_getElem? hmember) hfind)
      next => cases hjob
    next => cases hevent
  next => cases hoverlooked

/-- Nobody takes up a stranded job. -/
theorem stranded_step (hnumbered : fleet.Numbered) (hgenuine : action.IsGenuine)
    (hends : action.LeavesEnds) (h : fleet.Stranded id) : (fleet.step action).Stranded id := by
  have hheard := overlooked?_ne h.alone action
  exact stranded_iff.mpr
    (held_step [id] hnumbered hgenuine hends hheard (stranded_iff.mp h)).1

theorem stranded_run (hnumbered : fleet.Numbered) (hgenuine : ∀ action ∈ actions, action.IsGenuine)
    (hends : ∀ action ∈ actions, action.LeavesEnds) (h : fleet.Stranded id) :
    (fleet.run actions).Stranded id := by
  induction actions generalizing fleet with
  | nil => exact h
  | cons action rest ih =>
      obtain ⟨hgenuineNow, hgenuineRest⟩ := List.forall_mem_cons.mp hgenuine
      obtain ⟨hendsNow, hendsRest⟩ := List.forall_mem_cons.mp hends
      have hturn := turn_step hgenuineNow hnumbered
      have hnext := stranded_step hnumbered hgenuineNow hendsNow h
      exact ih hturn.numbered hgenuineRest hendsRest hnext

/-- Of all tasks, an event changes only those of its worker. -/
theorem count_openJobs_worker {member : Member} (hmember : fleet.members[index]? = some member)
    (event : Event) (id : JobId) :
    (openJobs (fleet.step (.worker index event)).tasks).count id +
        (openJobs (fleet.state index).tasks).count id =
      (openJobs fleet.tasks).count id +
        (openJobs ((fleet.step (.worker index event)).state index).tasks).count id := by
  have hmoved : (fleet.step (.worker index event)).state index =
      (member.step event fleet.world).2.state := state_worker hmember event
  obtain ⟨first, last, hbefore, hstep⟩ := exists_step_worker hmember event
  rw [hmoved, state_of_member hmember, hstep, tasks, tasks, hbefore]
  simp only [List.flatMap_append, List.flatMap_cons, openJobs_append, List.count_append]
  omega

/-- A job that is left behind is stranded. -/
theorem stranded_of_leftBehind? (hnumbered : fleet.Numbered)
    (hheld : Store.Held id fleet.world.store (openJobs fleet.tasks))
    (h : fleet.leftBehind? action = some id) : (fleet.step action).Stranded id := by
  unfold leftBehind? at h
  split at h
  next index event =>
    obtain ⟨member, hmember, hevent⟩ := Option.bind_eq_some_iff.mp h
    let start : State := { member.state with world := fleet.world }
    have hstart : start.Numbered := hnumbered member (List.mem_of_getElem? hmember)
    have hothers := count_openJobs_worker hmember event id
    have htasks : (fleet.state index).tasks = start.tasks := by
      rw [state_of_member hmember]
    have hmoved : (fleet.step (.worker index event)).state index = start.step member.config event :=
      state_worker hmember event
    rw [hmoved, htasks] at hothers
    have honce := hheld.once
    rcases Option.or_eq_some_iff.mp hevent with hunheard | ⟨-, hforsaken⟩
    · obtain ⟨hclaim, hsame⟩ := State.sameJobs_unheard hunheard member.config
      obtain ⟨hqueued, hprocessing⟩ := Store.status?_of_claim hclaim
      -- a job that is still queued has no task
      have hnone : id ∉ openJobs fleet.tasks := by
        intro hmem
        have hbusy := hheld.processing hmem
        rw [hqueued] at hbusy
        cases hbusy
      have hkept : (start.claimRow id).2.tasks = start.tasks := rfl
      rw [hsame.tasks, hkept] at hothers
      refine ⟨?_, List.count_eq_zero.mp ?_⟩
      · rw [status?, world_worker hmember, hsame.world]
        exact hprocessing
      · have hzero := List.count_eq_zero.mpr hnone
        omega
    -- a job has one task at most, which is over now
    · obtain ⟨hless, hstore⟩ := State.count_openJobs_of_forsaken hstart hforsaken member.config
      refine ⟨?_, List.count_eq_zero.mp ?_⟩
      · rw [status?, world_worker hmember, hstore]
        refine hheld.processing (List.count_pos_iff.mp ?_)
        omega
      · omega
  next => cases h

theorem stranded_run_of_leftBehind (hnumbered : fleet.Numbered)
    (hgenuine : ∀ action ∈ actions, action.IsGenuine)
    (hends : ∀ action ∈ actions, action.LeavesEnds) (hheard : id ∉ overlooked actions fleet)
    (hheld : Store.Held id fleet.world.store (openJobs fleet.tasks))
    (h : id ∈ leftBehind actions fleet) : (fleet.run actions).Stranded id := by
  induction actions generalizing fleet with
  | nil => exact absurd h List.not_mem_nil
  | cons action rest ih =>
      obtain ⟨hgenuineNow, hgenuineRest⟩ := List.forall_mem_cons.mp hgenuine
      obtain ⟨hendsNow, hendsRest⟩ := List.forall_mem_cons.mp hends
      have hturn := turn_step hgenuineNow hnumbered
      have hsplit : overlooked (action :: rest) fleet =
          (fleet.overlooked? action).toList ++ overlooked rest (fleet.step action) := rfl
      rw [hsplit, List.mem_append, not_or, Option.mem_toList] at hheard
      rcases List.mem_append.mp h with hnow | hlater
      · have hbehind := stranded_of_leftBehind? hnumbered hheld (Option.mem_toList.mp hnow)
        have hstays := stranded_run hturn.numbered hgenuineRest hendsRest hbehind
        exact hstays
      · have hnext := held_step [] hnumbered hgenuineNow hendsNow hheard.1 hheld
        exact ih hturn.numbered hgenuineRest hendsRest hheard.2 hnext.1 hlater

/-- A job that is left behind stays taken out of the queue, and nobody works on it, however
    things go on, if nobody has overlooked that its row was completed. -/
theorem run_stranded (hfresh : fleet.IsFresh) (hgenuine : ∀ action ∈ actions, action.IsGenuine)
    (hends : ∀ action ∈ actions, action.LeavesEnds) (hheard : id ∉ overlooked actions fleet)
    (hbehind : id ∈ leftBehind actions fleet) : (fleet.run actions).Stranded id := by
  have hheld : Store.Held id fleet.world.store (openJobs fleet.tasks) := by
    rw [tasks_of_isFresh hfresh]
    exact ⟨Nat.zero_le 1, nofun⟩
  exact stranded_run_of_leftBehind (numbered_of_isFresh hfresh) hgenuine hends hheard hheld hbehind

/-- A worker claims a job, and the answer gets lost; another worker finds nothing to do. -/
def sampleUnheard : List Action :=
  [.worker 0 .poll, .worker 0 (.fetched 0 .genuine),
   .worker 0 (.claimed 0 (.raises (.unreachable "connection lost") true)),
   .worker 1 .poll, .worker 1 (.fetched 0 .genuine)]

theorem run_stranded_sampleUnheard :
    leftBehind sampleUnheard sampleFleet = [⟨7⟩] ∧
      (sampleFleet.run sampleUnheard).Stranded ⟨7⟩ := by
  have hfresh : sampleFleet.IsFresh := by
    simp [sampleFleet, IsFresh]
  have hgenuine : ∀ action ∈ sampleUnheard, action.IsGenuine := by
    simp [sampleUnheard, Action.IsGenuine, State.Genuine]
  have hends : ∀ action ∈ sampleUnheard, action.LeavesEnds := by
    simp [sampleUnheard, Action.LeavesEnds]
  exact ⟨by decide +kernel,
    run_stranded hfresh hgenuine hends (by decide +kernel) (by decide +kernel)⟩

end Fleet

end Montage.Worker
