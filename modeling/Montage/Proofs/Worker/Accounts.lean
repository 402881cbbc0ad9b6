/-
  Montage.Proofs.Worker.Accounts

  What a worker keeps account of.  Polls are numbered in the order in which they begin, the
  jobs in flight are jobs of its tasks, and those have left the queue for good; so no queued
  job is in flight, and a new poll is the only one with its number.
-/
import Montage.Proofs.Worker.Cleanup
import Montage.Proofs.Worker.Filling

namespace Montage.Worker

open Montage.Jobs

namespace State

variable {config : Config} {state : State}

/-! ## The numbers of polls -/

/-- The numbers of all polls, in the order in which they began. -/
def pollNumbers (state : State) : List Nat :=
  state.polls.map Poll.number

@[simp] theorem pollNumbers_setPoint (number : Nat) (point : Point) (state : State) :
    (state.setPoint number point).pollNumbers = state.pollNumbers := by
  rw [pollNumbers, setPoint, List.map_map]
  refine List.map_congr_left fun poll _ => ?_
  rw [Function.comp_apply]
  split <;> rfl

@[simp] theorem pollNumbers_setPoll (poll : Poll) (state : State) :
    (state.setPoll poll).pollNumbers = state.pollNumbers := by
  rw [pollNumbers, setPoll, List.map_map]
  refine List.map_congr_left fun other _ => ?_
  rw [Function.comp_apply]
  split
  next hnumber => exact hnumber.symm
  next => rfl

@[simp] theorem pollNumbers_release (state : State) :
    state.release.pollNumbers = state.pollNumbers := by
  unfold release
  split
  next => rfl
  next => exact pollNumbers_setPoint _ _ _

@[simp] theorem pollNumbers_endPoll (number : Nat) (result : PollResult) (state : State) :
    (state.endPoll number result).pollNumbers = state.pollNumbers := by
  rw [pollNumbers, polls_endPoll]
  exact pollNumbers_setPoint number (.done result) state

/-- A poll that was let in goes on, or gives the lock back and ends. -/
theorem pollNumbers_leave (config : Config) (number : Nat) (result : PollResult) (state : State) :
    (if (state.enter config number).2 then (state.enter config number).1
      else (state.enter config number).1.release.endPoll number result).pollNumbers =
        state.pollNumbers := by
  have henter : (state.enter config number).1.pollNumbers = state.pollNumbers := by
    unfold enter
    split
    · exact pollNumbers_setPoint number .fetching state
    · rfl
  split
  · exact henter
  · rw [pollNumbers_endPoll, pollNumbers_release, henter]

@[simp] theorem pollNumbers_acquire (config : Config) (poll : Poll) (state : State) :
    (state.acquire config poll).pollNumbers = state.pollNumbers := by
  unfold acquire
  split
  · exact pollNumbers_leave config poll.number _ { state with holder := some poll.number }
  · exact pollNumbers_setPoint _ _ _

@[simp] theorem pollNumbers_continueFilling (config : Config) (poll : Poll) (state : State) :
    (state.continueFilling config poll).pollNumbers = state.pollNumbers := by
  unfold continueFilling
  split
  · exact pollNumbers_acquire config poll state
  · exact pollNumbers_endPoll _ _ state

@[simp] theorem pollNumbers_concludeClaim (config : Config) (poll : Poll)
    (result : Except Fault (Option JobId)) (state : State) :
    (state.concludeClaim config poll result).pollNumbers = state.pollNumbers := by
  unfold concludeClaim
  dsimp only
  split
  · simp only [pollNumbers_endPoll, pollNumbers_release]
  · simp only [pollNumbers_endPoll, pollNumbers_release]
  · split
    · simp only [pollNumbers_endPoll, pollNumbers_setPoll, pollNumbers_release]
    · simp only [pollNumbers_continueFilling, pollNumbers_setPoll, pollNumbers_release]

@[simp] theorem pollNumbers_beginPoll (config : Config) (purpose : Purpose) (forLoop : Bool)
    (state : State) : (state.beginPoll config purpose forLoop).pollNumbers =
      state.pollNumbers ++ [state.polls.length] := by
  let poll : Poll := { number := state.polls.length, purpose }
  have hnew : ∀ loop, ({ state with polls := state.polls ++ [poll], loop } : State).pollNumbers =
      state.pollNumbers ++ [state.polls.length] := fun loop => by
    rw [pollNumbers, List.map_append]
    rfl
  unfold beginPoll
  cases forLoop <;> cases purpose
  · exact (pollNumbers_acquire config _ _).trans (hnew state.loop)
  · exact (pollNumbers_continueFilling config _ _).trans (hnew state.loop)
  · exact (pollNumbers_acquire config _ _).trans (hnew _)
  · exact (pollNumbers_continueFilling config _ _).trans (hnew _)

theorem pollNumbers_useOldest (config : Config) (poll : Poll) (reply : Reply) (state : State) :
    (state.useOldest config poll reply).pollNumbers = state.pollNumbers := by
  unfold useOldest
  split
  · split
    · exact pollNumbers_concludeClaim config poll _ state
    · exact pollNumbers_setPoint _ _ state
  · exact pollNumbers_concludeClaim config poll _ state
  · exact pollNumbers_concludeClaim config poll _ state
  · exact pollNumbers_concludeClaim config poll _ state

/-- A claim changes rows, tasks and jobs in flight, but begins no poll. -/
theorem pollNumbers_useClaim (config : Config) (poll : Poll) (job : Job) (reply : Reply)
    (state : State) : (state.useClaim config poll job reply).pollNumbers = state.pollNumbers := by
  unfold useClaim settleClaim
  split
  · dsimp only
    split <;> exact pollNumbers_concludeClaim config poll _ _
  · split <;> exact pollNumbers_concludeClaim config poll _ _
  · refine (pollNumbers_concludeClaim config poll _ _).trans ?_
    split <;> rfl

theorem pollNumbers_cancelPoll (poll : Poll) (committed : Bool) (state : State) :
    (state.cancelPoll poll committed).pollNumbers = state.pollNumbers := by
  unfold cancelPoll
  dsimp only
  rw [pollNumbers_setPoint]
  split
  · rfl
  · exact pollNumbers_release state
  · exact pollNumbers_release state
  · rw [pollNumbers_release]
    cases committed <;> rfl
  · rfl

theorem pollNumbers_cancelLoop (committed : Bool) (state : State) :
    (state.cancelLoop committed).pollNumbers = state.pollNumbers := by
  unfold cancelLoop
  dsimp only
  split
  · rfl
  · rfl
  · split
    · rfl
    · exact pollNumbers_cancelPoll _ committed { state with loopCancelled := false }
  · rfl
  · rfl

/-- An event begins one poll more, or none. -/
theorem pollNumbers_step (config : Config) (event : Event) (state : State) :
    (state.step config event).pollNumbers = state.pollNumbers ∨
      (state.step config event).pollNumbers = state.pollNumbers ++ [state.polls.length] := by
  have hsame : ∀ after : State, after.polls = state.polls →
      after.pollNumbers = state.pollNumbers := fun after hpolls => by
    rw [pollNumbers, hpolls, pollNumbers]
  unfold step
  cases event with
  | poll => exact .inr (pollNumbers_beginPoll config .one false state)
  | fill => exact .inr (pollNumbers_beginPoll config .fill false state)
  | resume number =>
      refine .inl ?_
      dsimp only
      split
      · split
        · exact pollNumbers_leave config number _ state
        · rfl
      · rfl
  | fetched number reply =>
      refine .inl ?_
      dsimp only
      split
      · split
        · exact pollNumbers_useOldest config _ reply state
        · rfl
      · rfl
  | claimed number reply =>
      refine .inl ?_
      dsimp only
      split
      · split
        · exact pollNumbers_useClaim config _ _ reply state
        · rfl
      · rfl
  | task number event => exact .inl (hsame _ (polls_stepTask config number event state))
  | trigger => exact .inl rfl
  | loopStarts =>
      dsimp only
      split
      · exact .inr (pollNumbers_beginPoll config .fill true state)
      · exact .inl rfl
  | loopResumes =>
      dsimp only
      split
      · exact .inr (pollNumbers_beginPoll config .fill true { state with wakeup := false })
      · exact .inl rfl
  | start | loopWakes | loopTimesOut =>
      dsimp only
      split <;> exact .inl rfl
  | stop cancelJobs =>
      refine .inl (hsame _ ?_)
      dsimp only
      split
      · rfl
      · split
        · exact polls_collectJobs cancelJobs state
        · rfl
  | loopCancelled committed =>
      dsimp only
      split
      · exact .inl (pollNumbers_cancelLoop committed state)
      · exact .inl rfl
  | stopCollects =>
      refine .inl (hsame _ ?_)
      dsimp only
      split
      · split
        · exact polls_collectJobs _ state
        · rfl
      · rfl
  | stopFinishes =>
      refine .inl (hsame _ ?_)
      dsimp only
      split
      · split <;> rfl
      · rfl

/-- Polls are numbered in the order in which they began. -/
def PollsNumbered (state : State) : Prop :=
  state.pollNumbers = List.range state.polls.length

theorem pollsNumbered_step (h : state.PollsNumbered) (config : Config) (event : Event) :
    (state.step config event).PollsNumbered := by
  have hlength : ∀ after : State, after.polls.length = after.pollNumbers.length := fun after =>
    (List.length_map _).symm
  rw [PollsNumbered, hlength]
  rcases pollNumbers_step config event state with hsame | hnew
  · rw [hsame, ← hlength]
    exact h
  · rw [hnew, List.length_append, ← hlength, List.length_singleton, List.range_succ, h]

/-- A poll that begins now has a number of its own. -/
theorem PollsNumbered.lt (h : state.PollsNumbered) {poll : Poll} (hpoll : poll ∈ state.polls) :
    poll.number < state.polls.length := by
  have hmem : poll.number ∈ state.pollNumbers := List.mem_map.mpr ⟨poll, hpoll, rfl⟩
  rw [h] at hmem
  exact List.mem_range.mp hmem

/-! ## Jobs in flight -/

theorem mem_taskJobs_register {id : JobId} {job : Job}
    (h : id ∈ (state.register job).activeJobs) (hlisted : state.activeJobs ⊆ state.taskJobs) :
    id ∈ (state.register job).taskJobs := by
  have htasks : (state.register job).taskJobs = state.taskJobs ++ [job.id] := by
    simp [taskJobs, register]
  rw [htasks]
  rcases mem_withEntry h with rfl | hbefore
  · exact List.mem_append_right _ List.mem_cons_self
  · exact List.mem_append_left _ (hlisted hbefore)

/-- Every job in flight has a task. -/
theorem activeJobs_subset_step {event : Event} (hgenuine : Genuine event)
    (hnumbered : state.Numbered) (h : state.activeJobs ⊆ state.taskJobs) (config : Config) :
    (state.step config event).activeJobs ⊆ (state.step config event).taskJobs := by
  have hjobs := (turn_step hgenuine hnumbered config).jobs
  have hchange := change_step config event state
  generalize state.step config event = after at hchange hjobs ⊢
  have hsame : ∀ before : State, SameJobs before after → before.activeJobs ⊆ before.taskJobs →
      after.activeJobs ⊆ after.taskJobs := by
    intro before hsame hbefore
    rw [activeJobs, hsame.inFlight, taskJobs, hsame.tasks]
    exact hbefore
  have hshrunk : after.activeJobs ⊆ state.activeJobs → after.activeJobs ⊆ after.taskJobs := by
    intro hless id hid
    rw [hjobs]
    exact List.mem_append_left _ (h (hless hid))
  cases hchange with
  | idle hidle => exact hsame state hidle h
  | won job hclaim hwon hwins =>
      exact hsame _ hwins fun id hid => mem_taskJobs_register hid h
  | lost id hlost => exact hsame _ hlost h
  | @stubbed number value after job hstubbed => exact (hgenuine number value rfl).elim
  | task number event =>
      refine hshrunk ?_
      rcases stepTask_cases config number event state with hstay | ⟨task, requested, -, -, hstep⟩
      · rw [hstay]
        exact List.Subset.refl _
      · rw [hstep]
        exact activeJobs_updateTask _ _ state
  | stopping cancelJobs =>
      refine hshrunk ?_
      cases cancelJobs <;> exact List.Subset.refl _
  | stopped => exact hshrunk (List.nil_subset _)

/-! ## Accounts -/

/-- What a worker keeps account of, with the table as it is. -/
structure Accounted (store : Store) (state : State) : Prop where
  polls : state.PollsNumbered
  /-- Every job in flight has a task. -/
  listed : state.activeJobs ⊆ state.taskJobs
  /-- The jobs of its tasks have left the queue. -/
  left : ∀ id ∈ state.taskJobs, store.HasLeft id

theorem accounted_new (store : Store) (world : World) : ({ world } : State).Accounted store where
  polls := rfl
  listed := List.nil_subset _
  left := fun _ hid => absurd hid List.not_mem_nil

theorem Accounted.advances {before after : Store} (h : state.Accounted before)
    (hadvances : Store.Advances before after) : state.Accounted after :=
  ⟨h.polls, h.listed, fun id hid => hadvances id (h.left id hid)⟩

theorem Accounted.step (h : state.Accounted state.world.store) {event : Event}
    (hgenuine : Genuine event) (hnumbered : state.Numbered) (config : Config) :
    (state.step config event).Accounted (state.step config event).world.store := by
  have hturn := turn_step hgenuine hnumbered config
  refine ⟨pollsNumbered_step h.polls config event,
    activeJobs_subset_step hgenuine hnumbered h.listed config, fun id hid => ?_⟩
  rw [hturn.jobs] at hid
  rcases List.mem_append.mp hid with hold | hwon
  · exact hturn.advances id (h.left id hold)
  · exact (hasLeft_of_won (Option.mem_toList.mp hwon) config).2

/-- No queued job is in flight. -/
theorem Accounted.not_mem_activeJobs {store : Store} (h : state.Accounted store)
    (hdistinct : (store.jobs.map Job.id).Nodup) {job : Job} (hmem : job ∈ store.jobs)
    (hqueued : job.status = .queued) : job.id ∉ state.activeJobs := by
  intro hactive
  obtain ⟨row, hfind, hleft⟩ := h.left job.id (h.listed hactive)
  rw [Store.find?_of_distinct hdistinct hmem] at hfind
  exact hleft (Option.some.inj hfind ▸ hqueued)

end State

namespace Fleet

variable {fleet : Fleet} {actions : List Action}

/-- Whatever happens, the accounts of every worker are in order. -/
theorem accounted_run (hnew : fleet.IsNew) (hgenuine : ∀ action ∈ actions, action.IsGenuine)
    (index : Nat) :
    ((fleet.run actions).state index).Accounted (fleet.run actions).world.store := by
  -- from the right, so that each action finds a run of the fleet before it
  induction actions using List.reverseRecOn with
  | nil =>
      cases hmember : fleet.members[index]? with
      | none =>
          have hstate : (fleet.run []).state index = {} := state_of_none hmember
          rw [hstate]
          exact State.accounted_new _ {}
      | some member =>
          obtain ⟨world, hworld⟩ := hnew member (List.mem_of_getElem? hmember)
          have hstate : (fleet.run []).state index = { world } :=
            (state_of_member hmember).trans hworld
          rw [hstate]
          exact State.accounted_new _ world
  | append_singleton earlier action ih =>
      have hearlier : ∀ other ∈ earlier, other.IsGenuine := fun other hother =>
        hgenuine other (List.mem_append_left [action] hother)
      have hlast : action.IsGenuine := hgenuine action (by simp)
      have hbefore := ih hearlier
      have hnumbered := (course (numbered_of_isFresh hnew.isFresh) hearlier).numbered
      have hadvances := (turn_step hlast hnumbered).advances
      have hstep : fleet.run (earlier ++ [action]) = (fleet.run earlier).step action :=
        run_append earlier [action]
      rw [hstep]
      rcases state_step index action (fleet.run earlier) with hsame | ⟨event, member, rfl, hmember⟩
      · rw [hsame]
        exact hbefore.advances hadvances
      · rw [state_of_member hmember] at hbefore
        have hstart : ({ member.state with world := (fleet.run earlier).world } : State).Numbered :=
          hnumbered member (List.mem_of_getElem? hmember)
        have hin : ({ member.state with world := (fleet.run earlier).world } : State).Accounted
            (fleet.run earlier).world.store := ⟨hbefore.polls, hbefore.listed, hbefore.left⟩
        rw [state_worker hmember, world_worker hmember]
        exact hin.step hlast hstart member.config

end Fleet

end Montage.Worker
