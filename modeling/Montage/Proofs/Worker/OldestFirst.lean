/-
  Montage.Proofs.Worker.OldestFirst

  How a worker fills its slots.  While nobody else claims and no task ends, a poll that is
  answered takes the oldest job of the queue as often as there are free slots and queued
  jobs, and returns the jobs in the order in which it has taken them.
-/
import Montage.Proofs.Jobs.Oldest
import Montage.Proofs.Worker.Accounts
import Montage.Proofs.Worker.History

namespace Montage.Worker

open Montage.Jobs Montage.Number

namespace State

variable {config : Config} {before state : State} {number : Nat}

/-! ## Answers -/

/-- The answer that a poll waits for, if the table gives it. -/
def answer? (number : Nat) (state : State) : Option Event :=
  match (state.poll? number).map Poll.point with
  | some .fetching => some (.fetched number .genuine)
  | some (.claiming _) => some (.claimed number .genuine)
  | _ => none

/-- All tasks, each with its job and its number. -/
def entries (state : State) : List (Job × Nat) :=
  state.tasks.map fun task => (task.job, task.number)

/-- Something happens that is not about claims: tasks move and files change, but the table
    stays as it is, and no task ends. -/
structure Aside (before after : State) : Prop where
  store : after.world.store = before.world.store
  inFlight : after.inFlight = before.inFlight
  entries : after.entries = before.entries
  polls : after.polls = before.polls
  queue : after.queue = before.queue

/-- The progress of a job is written to its row. -/
def reportProgress (id : JobId) (progress : Scalar) (state : State) : State :=
  { state with
    world := { state.world with store := state.world.store.update id (Job.reported progress) } }

/-- What a worker comes to when a poll has been answered so many times, and its tasks have
    made these reports of progress, the latest one first. -/
inductive Answered (config : Config) (number : Nat) (start : State) :
    Nat → List (JobId × Scalar) → State → Prop
  | start : Answered config number start 0 [] start
  | answer {answers : Nat} {reports : List (JobId × Scalar)} {state : State} {event : Event}
      (h : Answered config number start answers reports state)
      (hevent : state.answer? number = some event) :
      Answered config number start (answers + 1) reports (state.step config event)
  /-- A job in flight makes progress. -/
  | report {answers : Nat} {reports : List (JobId × Scalar)} {state : State} {id : JobId}
      (h : Answered config number start answers reports state) (hactive : id ∈ state.activeJobs)
      (progress : Scalar) :
      Answered config number start answers ((id, progress) :: reports)
        (state.reportProgress id progress)
  /-- Something else happens in between. -/
  | aside {answers : Nat} {reports : List (JobId × Scalar)} {state after : State}
      (h : Answered config number start answers reports state) (haside : Aside state after) :
      Answered config number start answers reports after

/-! ## Filling -/

/-- A worker none of whose polls is under way, as the table knows it. -/
structure AtRest (state : State) : Prop where
  /-- Every job has an id of its own. -/
  distinct : (state.world.store.jobs.map Job.id).Nodup
  /-- No queued job is in flight. -/
  apart : ∀ job ∈ state.world.store.queued, job.id ∉ state.activeJobs
  polls : state.PollsNumbered
  holder : state.holder = none
  queue : state.queue = []

/-- How many slots are free. -/
def freeSlots (config : Config) (state : State) : Nat :=
  (config.limit - state.inFlight.length).toNat

/-- How many jobs there are to claim. -/
def rounds (config : Config) (state : State) : Nat :=
  min (state.freeSlots config) state.world.store.queued.length

/-- How many answers it takes: two for each job, and one more to find the queue empty while a
    slot is free. -/
def answersToFill (config : Config) (state : State) : Nat :=
  2 * state.rounds config + if state.rounds config < state.freeSlots config then 1 else 0

/-- A poll that began in one state has claimed these jobs, one after the other, while these
    reports were made, and now stands at this point in another state. -/
structure Claims (before : State) (drawn : List Job) (reports : List (JobId × Scalar))
    (point : Point) (after : State) : Prop where
  poll : after.poll? before.polls.length =
    some { number := before.polls.length, purpose := .fill, claimed := drawn.map Job.id, point }
  store : Store.Drawn before.world.store drawn reports after.world.store
  /-- They are in flight, each with the number of its task. -/
  inFlight : after.inFlight = before.inFlight ++
    (drawn.zipIdx before.tasks.length).map fun (job, number) => (job.id, number)
  /-- Each of them has got a task. -/
  entries : after.entries = before.entries ++ drawn.zipIdx before.tasks.length

/-! ## Moves of a poll -/

theorem poll?_setPoint (number : Nat) (point : Point) (state : State) :
    (state.setPoint number point).poll? number =
      (state.poll? number).map fun poll => { poll with point } := by
  simp only [poll?, setPoint]
  induction state.polls with
  | nil => rfl
  | cons poll rest ih =>
      by_cases hnumber : poll.number = number
      · simp [hnumber]
      · simpa [hnumber] using ih

theorem poll?_setPoll {poll old : Poll} (hnumber : poll.number = number)
    (h : state.poll? number = some old) : (state.setPoll poll).poll? number = some poll := by
  subst hnumber
  simp only [poll?, setPoll] at h ⊢
  generalize state.polls = polls at h ⊢
  induction polls with
  | nil => cases h
  | cons other rest ih =>
      by_cases hnumber : other.number = poll.number
      · simp [hnumber]
      · simp only [List.find?_cons, List.map_cons, hnumber, decide_false, if_false] at h ⊢
        exact ih h

/-- The lock that nobody waits for is free once it is given back. -/
theorem release_of_queue (h : state.queue = []) :
    state.release = { state with holder := none } := by
  rw [release, h]

/-- A poll that finds the lock free and sees a free slot goes on to look for a job. -/
theorem acquire_of_free {poll : Poll} (hholder : state.holder = none) (hqueue : state.queue = [])
    (hfree : state.hasFreeSlot config = true) : state.acquire config poll =
      { state with holder := some poll.number }.setPoint poll.number .fetching := by
  have henter : ({ state with holder := some poll.number } : State).enter config poll.number =
      ({ state with holder := some poll.number }.setPoint poll.number .fetching, true) :=
    if_pos hfree
  rw [acquire, if_pos ⟨hholder, hqueue⟩]
  simp only [henter, if_true]

variable {drawn : List Job} {reports : List (JobId × Scalar)} {point : Point} {job : Job}

namespace Claims

theorem setPoint (h : Claims before drawn reports point state) (next : Point) :
    Claims before drawn reports next (state.setPoint before.polls.length next) where
  poll := by
    rw [poll?_setPoint, h.poll]
    rfl
  store := h.store
  inFlight := h.inFlight
  entries := h.entries

theorem setHolder (h : Claims before drawn reports point state) (holder : Option Nat) :
    Claims before drawn reports point { state with holder } :=
  ⟨h.poll, h.store, h.inFlight, h.entries⟩

theorem endPoll (h : Claims before drawn reports point state) (result : PollResult) :
    Claims before drawn reports (.done result) (state.endPoll before.polls.length result) := by
  have hset := h.setPoint (.done result)
  have hsame := (onlyPolls_endPoll before.polls.length result state).toSameJobs
  constructor
  case poll => rw [poll?, polls_endPoll, ← poll?, hset.poll]
  case store =>
    rw [hsame.world]
    exact h.store
  case inFlight =>
    rw [hsame.inFlight]
    exact h.inFlight
  case entries =>
    rw [State.entries, hsame.tasks]
    exact h.entries

theorem aside {after : State} (h : Claims before drawn reports point state)
    (haside : Aside state after) : Claims before drawn reports point after where
  poll := by
    rw [poll?, haside.polls]
    exact h.poll
  store := haside.store ▸ h.store
  inFlight := haside.inFlight.trans h.inFlight
  entries := haside.entries.trans h.entries

/-- Every job that has been claimed takes a slot. -/
theorem hasFreeSlot_iff (h : Claims before drawn reports point state) (config : Config) :
    state.hasFreeSlot config = true ↔ drawn.length < before.freeSlots config := by
  rw [hasFreeSlot, h.inFlight, freeSlots, decide_eq_true_eq]
  simp only [List.length_append, List.length_map, List.length_zipIdx]
  omega

theorem length_tasks (h : Claims before drawn reports point state) :
    state.tasks.length = before.tasks.length + drawn.length := by
  have hlength := congrArg List.length h.entries
  simpa [State.entries] using hlength

theorem activeJobs_eq (h : Claims before drawn reports point state) :
    state.activeJobs = before.activeJobs ++ drawn.map Job.id := by
  rw [activeJobs, h.inFlight, List.map_append, List.map_map]
  show _ ++ (drawn.zipIdx before.tasks.length).map (Job.id ∘ Prod.fst) = _
  rw [← List.map_map, List.zipIdx_map_fst]
  rfl

variable (hrest : before.AtRest)
include hrest

/-- A job that was queued is in flight only if it has been claimed. -/
theorem mem_drawn (h : Claims before drawn reports point state)
    (hqueued : job ∈ before.world.store.queued) (hactive : job.id ∈ state.activeJobs) :
    job ∈ drawn := by
  rw [h.activeJobs_eq, List.mem_append] at hactive
  rcases hactive with hbefore | hdrawn
  · exact absurd hbefore (hrest.apart job hqueued)
  · obtain ⟨other, hother, hid⟩ := List.mem_map.mp hdrawn
    have hrow := (Store.mem_queued.mp (h.store.queued hother)).1
    have hsame : other = job :=
      List.inj_on_of_nodup_map hrest.distinct hrow (Store.mem_queued.mp hqueued).1 hid
    exact hsame ▸ hother

theorem report (h : Claims before drawn reports point state) {id : JobId}
    (hactive : id ∈ state.activeJobs) (progress : Scalar) :
    Claims before drawn ((id, progress) :: reports) point (state.reportProgress id progress) where
  poll := h.poll
  store := h.store.report (fun _ hqueued hid => h.mem_drawn hrest hqueued (hid ▸ hactive)) progress
  inFlight := h.inFlight
  entries := h.entries

/-- The claim of the oldest job succeeds, and the job gets its task and its place among the jobs
    in flight. -/
theorem register (h : Claims before drawn reports point state)
    (holdest : Store.IsOldest job state.world.store) :
    (state.claimRow job.id).1 = true ∧
      Claims before (drawn ++ [job]) reports point
        (({ (state.claimRow job.id).2.register job with holder := none } : State).setPoll
          { number := before.polls.length, purpose := .fill
            claimed := drawn.map Job.id ++ [job.id], point }) := by
  obtain ⟨hbefore, hnew⟩ := h.store.mem_queued.mp holdest.queued
  obtain ⟨hwon, hdrawn⟩ := h.store.claim hrest.distinct holdest
  have hzip : (drawn ++ [job]).zipIdx before.tasks.length =
      drawn.zipIdx before.tasks.length ++ [(job, state.tasks.length)] := by
    rw [List.zipIdx_append, h.length_tasks]
    rfl
  have hout : job.id ∉ state.activeJobs := fun hactive => hnew (h.mem_drawn hrest hbefore hactive)
  refine ⟨hwon, ?_⟩
  constructor
  case poll =>
    rw [List.map_append]
    exact poll?_setPoll rfl h.poll
  case store => exact hdrawn
  case inFlight =>
    show withEntry job.id state.tasks.length state.inFlight = _
    rw [withEntry_of_not_mem hout, hzip, List.map_append, h.inFlight, List.append_assoc]
    rfl
  case entries =>
    show (state.tasks ++ [({ number := state.tasks.length, job } : Task)]).map _ = _
    rw [List.map_append, hzip, ← List.append_assoc, ← h.entries]
    rfl

end Claims

/-! ## Where a poll stands -/

/-- Where a poll stands that fills the slots and has been answered so many times. -/
inductive Stands (config : Config) (before : State) :
    Nat → List (JobId × Scalar) → State → Prop
  /-- It looks for the oldest queued job. -/
  | fetching {drawn : List Job} {reports : List (JobId × Scalar)} {state : State}
      (h : Claims before drawn reports .fetching state) (hqueue : state.queue = [])
      (hfree : drawn.length < before.freeSlots config) :
      Stands config before (2 * drawn.length) reports state
  /-- It goes for the job that it has found. -/
  | claiming {drawn : List Job} {reports : List (JobId × Scalar)} {state : State} {job : Job}
      (h : Claims before drawn reports (.claiming job) state) (hqueue : state.queue = [])
      (hfree : drawn.length < before.freeSlots config)
      (holdest : Store.IsOldest job state.world.store) :
      Stands config before (2 * drawn.length + 1) reports state
  /-- It has returned what it has claimed. -/
  | returned {drawn : List Job} {reports : List (JobId × Scalar)} {state : State}
      (h : Claims before drawn reports (.done (.claimed (drawn.map Job.id))) state)
      (hlength : drawn.length = before.rounds config) :
      Stands config before (before.answersToFill config) reports state

/-- A poll has returned jobs, as many as there were to claim. -/
def FillsOldest (config : Config) (reports : List (JobId × Scalar)) (before after : State) : Prop :=
  ∃ drawn, drawn.length = before.rounds config ∧
    Claims before drawn reports (.done (.claimed (drawn.map Job.id))) after

namespace Stands

variable {answers : Nat} (hrest : before.AtRest)
include hrest

theorem of_full (h : Claims before drawn reports point state)
    (hle : drawn.length ≤ before.freeSlots config)
    (hfull : ¬ drawn.length < before.freeSlots config) :
    Stands config before (2 * drawn.length) reports
      (state.endPoll before.polls.length (.claimed (drawn.map Job.id))) := by
  have hqueue := h.store.length hrest.distinct
  have hlength : drawn.length = before.rounds config := by
    unfold rounds
    omega
  have hanswers : 2 * drawn.length = before.answersToFill config := by
    rw [answersToFill, ← hlength, if_neg hfull, Nat.add_zero]
  rw [hanswers]
  exact .returned (h.endPoll _) hlength

/-- A poll that has found the queue empty returns. -/
theorem of_empty (h : Claims before drawn reports point state)
    (hfree : drawn.length < before.freeSlots config) (hempty : state.world.store.queued = []) :
    Stands config before (2 * drawn.length + 1) reports
      (state.endPoll before.polls.length (.claimed (drawn.map Job.id))) := by
  have hqueue := h.store.length hrest.distinct
  rw [hempty, List.length_nil] at hqueue
  have hlength : drawn.length = before.rounds config := by
    unfold rounds
    omega
  have hanswers : 2 * drawn.length + 1 = before.answersToFill config := by
    rw [answersToFill, ← hlength, if_pos hfree]
  rw [hanswers]
  exact .returned (h.endPoll _) hlength

/-- A poll that finds the lock free looks for the next job if a slot is free, and returns if
    not. -/
theorem continueFilling {poll : Poll} (h : Claims before drawn reports point state)
    (hpoll : poll.number = before.polls.length ∧ poll.claimed = drawn.map Job.id)
    (hholder : state.holder = none) (hqueue : state.queue = [])
    (hle : drawn.length ≤ before.freeSlots config) :
    Stands config before (2 * drawn.length) reports (state.continueFilling config poll) := by
  unfold State.continueFilling
  by_cases hfree : state.hasFreeSlot config = true
  · rw [if_pos hfree, acquire_of_free hholder hqueue hfree, hpoll.1]
    exact .fetching ((h.setHolder _).setPoint .fetching) hqueue
      ((h.hasFreeSlot_iff config).mp hfree)
  · rw [if_neg hfree, hpoll.1, hpoll.2]
    exact of_full hrest h hle fun hless => hfree ((h.hasFreeSlot_iff config).mpr hless)

/-! ## Steps -/

/-- An answer brings a poll on. -/
theorem answer {event : Event} (h : Stands config before answers reports state)
    (hevent : state.answer? before.polls.length = some event) :
    Stands config before (answers + 1) reports (state.step config event) := by
  cases h with
  | @fetching drawn _ _ h hqueue hfree =>
      obtain rfl : .fetched before.polls.length .genuine = event := by
        simpa [answer?, h.poll] using hevent
      simp only [step, h.poll, useOldest]
      cases holdest : state.world.store.oldestQueued with
      | none =>
          simp only [concludeClaim, release_of_queue hqueue]
          exact of_empty hrest (h.setHolder none) hfree (Store.queued_of_oldestQueued holdest)
      | some job =>
          exact .claiming (h.setPoint (.claiming job)) hqueue hfree
            (Store.isOldest_of_oldestQueued holdest)
  | @claiming drawn _ _ job h hqueue hfree holdest =>
      obtain rfl : .claimed before.polls.length .genuine = event := by
        simpa [answer?, h.poll] using hevent
      obtain ⟨hwon, hnext⟩ := h.register hrest holdest
      have hreleased : ((state.claimRow job.id).2.register job).release =
          { (state.claimRow job.id).2.register job with holder := none } := release_of_queue hqueue
      have hlength : (drawn ++ [job]).length = drawn.length + 1 := List.length_append
      have hanswers : 2 * drawn.length + 1 + 1 = 2 * (drawn ++ [job]).length := by omega
      simp only [step, h.poll, useClaim, hwon, settleClaim, if_true, concludeClaim, hreleased]
      rw [hanswers]
      refine continueFilling hrest hnext ⟨rfl, ?_⟩ rfl hqueue ?_
      · rw [List.map_append]
        rfl
      · omega
  | returned h => simp [answer?, h.poll] at hevent

/-- A report of progress leaves the queue as it is, so the job that was found stays the oldest
    one. -/
theorem report {id : JobId} (h : Stands config before answers reports state)
    (hactive : id ∈ state.activeJobs) (progress : Scalar) :
    Stands config before answers ((id, progress) :: reports)
      (state.reportProgress id progress) := by
  cases h with
  | fetching h hqueue hfree => exact .fetching (h.report hrest hactive progress) hqueue hfree
  | claiming h hqueue hfree holdest =>
      have hnext := h.report hrest hactive progress
      have hsame : ∀ {other : Job},
          other ∈ (state.reportProgress id progress).world.store.queued ↔
            other ∈ state.world.store.queued := fun {_} =>
        hnext.store.mem_queued.trans h.store.mem_queued.symm
      exact .claiming hnext hqueue hfree ⟨hsame.mpr holdest.queued, fun other hother =>
        holdest.least other (hsame.mp hother)⟩
  | returned h hlength => exact .returned (h.report hrest hactive progress) hlength

omit hrest in
theorem aside {after : State} (h : Stands config before answers reports state)
    (haside : Aside state after) : Stands config before answers reports after := by
  cases h with
  | fetching h hqueue hfree => exact .fetching (h.aside haside) (haside.queue.trans hqueue) hfree
  | claiming h hqueue hfree holdest =>
      exact .claiming (h.aside haside) (haside.queue.trans hqueue) hfree
        (haside.store.symm ▸ holdest)
  | returned h hlength => exact .returned (h.aside haside) hlength

/-- A poll that has not returned waits for an answer, and there is one to come. -/
theorem outcome (h : Stands config before answers reports state) :
    (answers < before.answersToFill config ∧
        ∃ event, state.answer? before.polls.length = some event) ∨
      (answers = before.answersToFill config ∧ FillsOldest config reports before state) := by
  cases h with
  | @fetching drawn _ _ h hqueue hfree =>
      refine .inl ⟨?_, .fetched before.polls.length .genuine, ?_⟩
      · have hlength := h.store.length hrest.distinct
        unfold answersToFill rounds
        split <;> omega
      · simp only [answer?, h.poll, Option.map_some]
  | @claiming drawn _ _ job h hqueue hfree holdest =>
      refine .inl ⟨?_, .claimed before.polls.length .genuine, ?_⟩
      -- the job that it goes for is queued, so it has not claimed all of them
      · have hlength := h.store.length hrest.distinct
        have hsome := List.length_pos_of_mem holdest.queued
        unfold answersToFill rounds
        split <;> omega
      · simp only [answer?, h.poll, Option.map_some]
  | returned h hlength => exact .inr ⟨rfl, _, hlength, h⟩

end Stands

/-! ## Runs -/

/-- A poll that fills the slots begins, be it for the loop or not. -/
theorem stands_beginPoll (hrest : state.AtRest) (config : Config) (forLoop : Bool) :
    Stands config state 0 [] (state.beginPoll config .fill forLoop) := by
  let poll : Poll := { number := state.polls.length, purpose := .fill }
  have hbegun : ∀ loop,
      Claims state [] [] .queued { state with polls := state.polls ++ [poll], loop } := by
    intro loop
    constructor
    case poll =>
      have hother : state.polls.find? (fun other => other.number = state.polls.length) = none := by
        refine List.find?_eq_none.mpr fun other hmem => ?_
        have hless := hrest.polls.lt hmem
        simp only [decide_eq_true_eq]
        omega
      rw [poll?, List.find?_append, hother]
      simp [poll]
    case store => exact .nil state.world.store
    case inFlight => exact (List.append_nil _).symm
    case entries => exact (List.append_nil _).symm
  unfold beginPoll
  cases forLoop with
  | false =>
      exact .continueFilling hrest (hbegun state.loop) ⟨rfl, rfl⟩ hrest.holder hrest.queue
        (Nat.zero_le _)
  | true =>
      exact .continueFilling hrest (hbegun _) ⟨rfl, rfl⟩ hrest.holder hrest.queue (Nat.zero_le _)

theorem stands_of_answered {answers : Nat} {after : State} (hrest : state.AtRest) {forLoop : Bool}
    (h : Answered config state.polls.length (state.beginPoll config .fill forLoop) answers reports
      after) :
    Stands config state answers reports after := by
  induction h with
  | start => exact stands_beginPoll hrest config forLoop
  | answer _ hevent ih => exact ih.answer hrest hevent
  | report _ hactive progress ih => exact ih.report hrest hactive progress
  | aside _ haside ih => exact ih.aside haside

end State

namespace Fleet

variable {fleet : Fleet} {actions : List Action}

/-- A worker of a fleet none of whose polls is under way is at rest. -/
theorem atRest_run (hnew : fleet.IsNew) (hgenuine : ∀ action ∈ actions, action.IsGenuine)
    (hdistinct : ((fleet.run actions).world.store.jobs.map Job.id).Nodup) {index : Nat}
    (hholder : ((fleet.run actions).state index).holder = none)
    (hqueue : ((fleet.run actions).state index).queue = []) :
    ({ (fleet.run actions).state index with
      world := (fleet.run actions).world } : State).AtRest := by
  have haccounts := accounted_run hnew hgenuine index
  constructor
  case distinct => exact hdistinct
  case apart =>
    intro job hjob
    obtain ⟨hmem, hstatus⟩ := Store.mem_queued.mp hjob
    exact haccounts.not_mem_activeJobs hdistinct hmem hstatus
  case polls => exact haccounts.polls
  case holder => exact hholder
  case queue => exact hqueue

end Fleet

/-- Oldest first and without loss.  A poll that is to fill the slots of a worker at rest, and
    whose look-ups and claims succeed, returns after so many answers and not before; whatever
    else happens in between leaves the table, the jobs in flight and the polls alone.  It has
    then taken the oldest job of the queue as often as there were free slots and queued jobs.
    In a fleet a worker is at rest when none of its polls has the lock or waits for it. -/
theorem fill_oldestFirst :
    (∀ (config : Config) (state : State), state.AtRest → ∀ forLoop answers reports after,
      State.Answered config state.polls.length (state.beginPoll config .fill forLoop) answers
          reports after →
        (answers < state.answersToFill config ∧
            ∃ event, after.answer? state.polls.length = some event) ∨
          (answers = state.answersToFill config ∧
            State.FillsOldest config reports state after)) ∧
      ∀ (fleet : Fleet) (actions : List Action) (index : Nat), fleet.IsNew →
        (∀ action ∈ actions, action.IsGenuine) →
        ((fleet.run actions).world.store.jobs.map Job.id).Nodup →
        ((fleet.run actions).state index).holder = none →
        ((fleet.run actions).state index).queue = [] →
          ({ (fleet.run actions).state index with
            world := (fleet.run actions).world } : State).AtRest := by
  constructor
  · intro config state hrest forLoop answers reports after hanswered
    exact (State.stands_of_answered hrest hanswered).outcome hrest
  · intro fleet actions index hnew hgenuine hdistinct hholder hqueue
    exact Fleet.atRest_run hnew hgenuine hdistinct hholder hqueue

/-! ## A backlog -/

def sampleWorker : Config :=
  { Fleet.sampleConfig with limit := 3 }

/-- Four jobs for a worker with three slots; two of them were made at the same time. -/
def sampleBacklog : Fleet :=
  { input := sampleWorker.input
    world := { store := ⟨[{ Fleet.sampleRow with createdAt := 2 },
      { Fleet.sampleRow with id := ⟨8⟩ },
      { Fleet.sampleRow with id := ⟨9⟩, createdAt := 2 },
      { Fleet.sampleRow with id := ⟨10⟩, createdAt := 1 }]⟩ }
    members := [⟨sampleWorker, {}⟩] }

/-- A poll takes one of them. -/
def samplePoll : List Action :=
  [.worker 0 .poll, .worker 0 (.fetched 0 .genuine), .worker 0 (.claimed 0 .genuine)]

/-- The worker with one job in flight. -/
def sampleStart : State :=
  { (sampleBacklog.run samplePoll).state 0 with world := (sampleBacklog.run samplePoll).world }

/-- In the meantime the job in flight comes to 40 percent. -/
def sampleReports : List (JobId × Scalar) :=
  [(⟨8⟩, .int 40)]

theorem fill_oldestFirst_sampleBacklog :
    sampleStart.activeJobs = [⟨8⟩] ∧ sampleStart.freeSlots sampleWorker = 2 ∧
      sampleStart.world.store.queued.map Job.id = [⟨7⟩, ⟨9⟩, ⟨10⟩] ∧
      ∃ after, (after.poll? sampleStart.polls.length).map Poll.point =
          some (.done (.claimed [⟨10⟩, ⟨7⟩])) ∧
        State.FillsOldest sampleWorker sampleReports sampleStart after := by
  have hnew : sampleBacklog.IsNew := by
    intro member hmember
    rw [List.mem_singleton.mp hmember]
    exact ⟨{}, rfl⟩
  have hgenuine : ∀ action ∈ samplePoll, action.IsGenuine := by
    simp [samplePoll, Action.IsGenuine, State.Genuine]
  have hrest : sampleStart.AtRest := fill_oldestFirst.2 sampleBacklog samplePoll 0 hnew hgenuine
    (by decide +kernel) (by decide +kernel) (by decide +kernel)
  have hanswered : State.Answered sampleWorker sampleStart.polls.length
      (sampleStart.beginPoll sampleWorker .fill false) 4 sampleReports _ :=
    .answer (.answer (.answer (.report (.answer .start rfl) (by decide +kernel) (.int 40)) rfl) rfl)
      rfl
  have hanswers : sampleStart.answersToFill sampleWorker = 4 := by decide +kernel
  have hreturned := fill_oldestFirst.1 sampleWorker sampleStart hrest false 4 sampleReports _
    hanswered
  rw [hanswers] at hreturned
  exact ⟨by decide +kernel, by decide +kernel, by decide +kernel, _, rfl,
    (hreturned.resolve_left fun hless => Nat.lt_irrefl 4 hless.1).2⟩

end Montage.Worker
