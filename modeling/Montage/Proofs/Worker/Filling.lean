/-
  Montage.Proofs.Worker.Filling

  Why a worker stops to fill its slots.  A poll that is to fill them returns because no
  slot is free, because it has looked up the oldest queued job and there was none, or
  because somebody else has claimed the job that it had looked up.  In the last case other
  jobs may still be queued, and slots free.
-/
import Montage.Proofs.Jobs.Oldest
import Montage.Proofs.Worker.Slots

namespace Montage.Jobs.Store

/-- Whether a job waits to be claimed. -/
def HasQueued (store : Store) : Prop :=
  ∃ job ∈ store.jobs, job.status = .queued

instance (store : Store) : Decidable store.HasQueued :=
  inferInstanceAs (Decidable (∃ job ∈ store.jobs, job.status = .queued))

/-- Only if no job is queued, there is no oldest one. -/
theorem not_hasQueued {store : Store} (h : store.oldestQueued = none) : ¬ store.HasQueued := by
  rintro ⟨job, hmem, hqueued⟩
  have hin : job ∈ store.queued := mem_queued.mpr ⟨hmem, hqueued⟩
  rw [queued_of_oldestQueued h] at hin
  cases hin

end Montage.Jobs.Store

namespace Montage.Worker

open Montage.Jobs

/-- Whether a poll was to fill the slots and has returned what it claimed. -/
def Poll.HasFilled (poll : Poll) : Prop :=
  poll.purpose = .fill ∧ ∃ ids, poll.point = .done (.claimed ids)

namespace State

variable {config : Config} {state : State} {number other : Nat}

/-- Whether the poll with this number was to fill the slots and has returned. -/
def HasFilled (number : Nat) (state : State) : Prop :=
  ∃ poll ∈ state.polls, poll.number = number ∧ poll.HasFilled

/-! ## Moves of a poll -/

theorem hasFilled_setPoint {point : Point} (h : (state.setPoint number point).HasFilled other) :
    state.HasFilled other ∨ (other = number ∧ ∃ ids, point = .done (.claimed ids)) := by
  obtain ⟨moved, hmoved, rfl, hfilled⟩ := h
  obtain ⟨poll, hpoll, rfl⟩ := List.mem_map.mp hmoved
  by_cases hnumber : poll.number = number
  · rw [if_pos hnumber] at hfilled ⊢
    exact .inr ⟨hnumber, hfilled.2⟩
  · rw [if_neg hnumber] at hfilled ⊢
    exact .inl ⟨poll, hpoll, rfl, hfilled⟩

/-- A poll that moves to where it waits has not returned, and no other poll has moved. -/
theorem hasFilled_of_setPoint {point : Point} (hpoint : ∀ ids, point ≠ .done (.claimed ids))
    (h : (state.setPoint number point).HasFilled other) : state.HasFilled other := by
  rcases hasFilled_setPoint h with hbefore | ⟨-, ids, hdone⟩
  · exact hbefore
  · exact absurd hdone (hpoint ids)

theorem hasFilled_release (h : state.release.HasFilled other) : state.HasFilled other := by
  unfold release at h
  split at h
  next => exact h
  next => exact hasFilled_of_setPoint (by nofun) h

theorem polls_endPoll (number : Nat) (result : PollResult) (state : State) :
    (state.endPoll number result).polls = (state.setPoint number (.done result)).polls := by
  unfold endPoll
  dsimp only
  split <;> rfl

theorem hasFilled_endPoll {result : PollResult}
    (h : (state.endPoll number result).HasFilled other) :
    state.HasFilled other ∨ (other = number ∧ ∃ ids, result = .claimed ids) := by
  have hdone : (state.setPoint number (.done result)).HasFilled other := by
    rw [HasFilled, polls_endPoll] at h
    exact h
  rcases hasFilled_setPoint hdone with hbefore | ⟨hother, ids, hresult⟩
  · exact .inl hbefore
  · exact .inr ⟨hother, ids, Point.done.inj hresult⟩

theorem hasFreeSlot_release (config : Config) (state : State) :
    state.release.hasFreeSlot config = state.hasFreeSlot config := by
  rw [hasFreeSlot, hasFreeSlot, (onlyPolls_release state).inFlight]

/-- A poll that was let in returns at once only if no slot is free. -/
theorem hasFilled_enter {result : PollResult}
    (h : (if (state.enter config number).2 then (state.enter config number).1
      else (state.enter config number).1.release.endPoll number result).HasFilled other) :
    state.HasFilled other ∨ (other = number ∧ state.hasFreeSlot config = false) := by
  unfold enter at h
  by_cases hfree : state.hasFreeSlot config = true
  · rw [if_pos hfree, if_pos rfl] at h
    exact .inl (hasFilled_of_setPoint (by nofun) h)
  · rw [if_neg hfree, if_neg Bool.false_ne_true] at h
    rcases hasFilled_endPoll h with hbefore | ⟨hother, -⟩
    · exact .inl (hasFilled_release hbefore)
    · exact .inr ⟨hother, Bool.eq_false_iff.mpr hfree⟩

theorem hasFilled_acquire {poll : Poll} (h : (state.acquire config poll).HasFilled other) :
    state.HasFilled other ∨ (other = poll.number ∧ state.hasFreeSlot config = false) := by
  unfold acquire at h
  split at h
  · exact @hasFilled_enter config { state with holder := some poll.number } _ _ _ h
  · exact .inl (hasFilled_of_setPoint (by nofun) h)

theorem hasFilled_continueFilling {poll : Poll}
    (h : (state.continueFilling config poll).HasFilled other) :
    state.HasFilled other ∨ (other = poll.number ∧ state.hasFreeSlot config = false) := by
  unfold continueFilling at h
  split at h
  next => exact hasFilled_acquire h
  next hfull =>
    rcases hasFilled_endPoll h with hbefore | ⟨hother, -⟩
    · exact .inl hbefore
    · exact .inr ⟨hother, Bool.eq_false_iff.mpr hfull⟩

/-! ## Claims -/

theorem hasFilled_setPoll {poll : Poll} (hpoll : ¬ poll.HasFilled)
    (h : (state.setPoll poll).HasFilled other) : state.HasFilled other := by
  obtain ⟨moved, hmoved, rfl, hfilled⟩ := h
  obtain ⟨old, hold, rfl⟩ := List.mem_map.mp hmoved
  by_cases hnumber : old.number = poll.number
  · rw [if_pos hnumber] at hfilled
    exact absurd hfilled hpoll
  · rw [if_neg hnumber] at hfilled ⊢
    exact ⟨old, hold, rfl, hfilled⟩

/-- A poll for one job does not fill the slots, however it ends. -/
theorem hasFilled_endPoll_of_one {poll : Poll} (hone : poll.purpose = .one) {result : PollResult}
    (h : ((state.setPoll poll).endPoll poll.number result).HasFilled other) :
    state.HasFilled other := by
  have hnot : ¬ poll.HasFilled := fun hfilled => by
    rw [hfilled.1] at hone
    cases hone
  rcases hasFilled_endPoll h with hbefore | ⟨rfl, -⟩
  · exact hasFilled_setPoll hnot hbefore
  · obtain ⟨ended, hended, hnumber, hfilled⟩ := h
    rw [polls_endPoll] at hended
    obtain ⟨moved, hmoved, rfl⟩ := List.mem_map.mp hended
    obtain ⟨old, -, rfl⟩ := List.mem_map.mp hmoved
    -- every poll with this number has become the one for one job
    by_cases hold : old.number = poll.number
    · rw [if_pos hold, if_pos rfl] at hfilled
      exact absurd hfilled.1 (by rw [hone]; nofun)
    · rw [if_neg hold, if_neg hold] at hnumber
      exact absurd hnumber hold

/-- A poll returns from a claim that has come to this: it has found nothing to claim, or has
    claimed a job and sees no free slot. -/
def Returns (config : Config) (result : Except Fault (Option JobId)) (state : State) : Prop :=
  match result with
  | .error _ => False
  | .ok none => True
  | .ok (some _) => state.hasFreeSlot config = false

theorem hasFilled_concludeClaim {poll : Poll} (hpoll : ¬ poll.HasFilled)
    {result : Except Fault (Option JobId)}
    (h : (state.concludeClaim config poll result).HasFilled other) :
    state.HasFilled other ∨ (other = poll.number ∧ state.Returns config result) := by
  unfold concludeClaim at h
  dsimp only at h
  split at h
  next fault =>
    rcases hasFilled_endPoll h with hbefore | ⟨-, ids, hraised⟩
    · exact .inl (hasFilled_release hbefore)
    · cases hraised
  next =>
    rcases hasFilled_endPoll h with hbefore | ⟨hother, -⟩
    · exact .inl (hasFilled_release hbefore)
    · exact .inr ⟨hother, trivial⟩
  next id =>
    let next : Poll := { poll with claimed := poll.claimed ++ [id] }
    have hnext : ¬ next.HasFilled := hpoll
    split at h
    next hone => exact .inl (hasFilled_release (@hasFilled_endPoll_of_one _ _ next hone _ h))
    next =>
      rcases hasFilled_continueFilling h with hbefore | ⟨hother, hfull⟩
      · exact .inl (hasFilled_release (hasFilled_setPoll hnext hbefore))
      · exact .inr ⟨hother, (hasFreeSlot_release config state).symm.trans hfull⟩

theorem hasFilled_beginPoll {purpose : Purpose} {forLoop : Bool}
    (h : (state.beginPoll config purpose forLoop).HasFilled number) :
    state.HasFilled number ∨ state.hasFreeSlot config = false := by
  -- the new poll has not returned yet
  have hnew : ∀ loop, ({ state with
      polls := state.polls ++ [{ number := state.polls.length, purpose }], loop } : State).HasFilled
        number → state.HasFilled number := by
    rintro loop ⟨poll, hpoll, hnumber, hfilled⟩
    rcases List.mem_append.mp hpoll with hold | hlast
    · exact ⟨poll, hold, hnumber, hfilled⟩
    · obtain ⟨-, ids, hdone⟩ := hfilled
      rw [List.mem_singleton.mp hlast] at hdone
      cases hdone
  unfold beginPoll at h
  cases forLoop <;> cases purpose
  · exact (hasFilled_acquire h).imp (hnew state.loop) And.right
  · exact (hasFilled_continueFilling h).imp (hnew state.loop) And.right
  · exact (hasFilled_acquire h).imp (hnew _) And.right
  · exact (hasFilled_continueFilling h).imp (hnew _) And.right

/-! ## Events -/

/-- Why a poll returns at an event that leads from one state to another. -/
inductive Halts (config : Config) (number : Nat) (event : Event) (before after : State) : Prop
  /-- All slots are busy. -/
  | full (h : config.limit ≤ after.inFlight.length)
  /-- It has looked for a queued job, and there is none. -/
  | empty (hevent : event = .fetched number .genuine) (h : ¬ before.world.store.HasQueued)
  /-- Somebody else has claimed the job that it goes for. -/
  | lost {poll : Poll} {job : Job} (hevent : event = .claimed number .genuine)
      (hpoll : before.poll? number = some poll) (hpoint : poll.point = .claiming job)
      (h : (before.world.store.claim job.id).1 = false)

/-- Whether a worker asks the table for what it claims: a look-up and a claim do their work,
    or the call fails. -/
def AsksTable : Event → Prop
  | .fetched _ (.instead _) | .claimed _ (.instead _) => False
  | _ => True

theorem limit_le_of_full (h : state.hasFreeSlot config = false) :
    config.limit ≤ state.inFlight.length := by
  simpa [hasFreeSlot] using h

/-- A poll that returns without having claimed anything at this event has found no slot. -/
theorem Halts.of_full {event : Event} {after : State} (h : state.hasFreeSlot config = false)
    (hsame : SameJobs state after) : Halts config number event state after := by
  refine .full ?_
  rw [hsame.inFlight]
  exact limit_le_of_full h

theorem not_hasFilled_of_point {poll : Poll} {point : Point} (hpoint : poll.point = point)
    (h : ∀ ids, point ≠ .done (.claimed ids)) : ¬ poll.HasFilled := by
  rintro ⟨-, ids, hdone⟩
  exact h ids (hpoint.symm.trans hdone)

/-- A claim that fails moves no poll, whether the row was changed or not. -/
theorem hasFilled_committed {id : JobId} {committed : Bool}
    (h : (if committed then (state.claimRow id).2 else state).HasFilled number) :
    state.HasFilled number := by
  cases committed with
  | true => exact h
  | false => exact h

theorem halts_useOldest {poll : Poll} {reply : Reply} (hpoll : ¬ poll.HasFilled)
    (hreply : AsksTable (.fetched poll.number reply))
    (h : (state.useOldest config poll reply).HasFilled number) :
    state.HasFilled number ∨ Halts config number (.fetched poll.number reply) state
      (state.useOldest config poll reply) := by
  cases reply with
  | genuine =>
      unfold useOldest at h
      dsimp only at h
      split at h
      next hnone =>
        rcases hasFilled_concludeClaim hpoll h with hbefore | ⟨rfl, -⟩
        · exact .inl hbefore
        · exact .inr (.empty rfl (Store.not_hasQueued hnone))
      next => exact .inl (hasFilled_of_setPoint (by nofun) h)
  | «instead» value => exact hreply.elim
  | raises fault committed =>
      rcases hasFilled_concludeClaim hpoll h with hbefore | ⟨-, hnever⟩
      · exact .inl hbefore
      · exact hnever.elim

theorem halts_useClaim {poll : Poll} {job : Job} {reply : Reply}
    (hpoll : state.poll? poll.number = some poll) (hpoint : poll.point = .claiming job)
    (hreply : AsksTable (.claimed poll.number reply))
    (h : (state.useClaim config poll job reply).HasFilled number) :
    state.HasFilled number ∨ Halts config number (.claimed poll.number reply) state
      (state.useClaim config poll job reply) := by
  have hwaits : ¬ poll.HasFilled := not_hasFilled_of_point hpoint (by nofun)
  cases reply with
  | genuine =>
      unfold useClaim at h ⊢
      dsimp only at h ⊢
      cases hclaim : (state.claimRow job.id).1 with
      | true =>
          rw [hclaim] at h
          rw [settleClaim, if_pos rfl] at h ⊢
          rcases hasFilled_concludeClaim hwaits h with hbefore | ⟨-, hfull⟩
          · exact .inl hbefore
          · refine .inr (.full ?_)
            rw [(onlyPolls_concludeClaim config poll _ _).inFlight]
            exact limit_le_of_full hfull
      | false =>
          rw [hclaim, settleClaim, if_neg Bool.false_ne_true] at h
          rcases hasFilled_concludeClaim hwaits h with hbefore | ⟨rfl, -⟩
          · exact .inl hbefore
          · exact .inr (.lost rfl hpoll hpoint hclaim)
  | «instead» value => exact hreply.elim
  | raises fault committed =>
      rcases hasFilled_concludeClaim hwaits h with hbefore | ⟨-, hnever⟩
      · exact .inl (hasFilled_committed hbefore)
      · exact hnever.elim

theorem hasFilled_cancelPoll {poll : Poll} {committed : Bool}
    (h : (state.cancelPoll poll committed).HasFilled number) : state.HasFilled number := by
  unfold cancelPoll at h
  have hbefore := hasFilled_of_setPoint (by nofun) h
  split at hbefore
  · exact hbefore
  · exact hasFilled_release hbefore
  · exact hasFilled_release hbefore
  · exact hasFilled_committed (hasFilled_release hbefore)
  · exact hbefore

theorem hasFilled_cancelLoop {committed : Bool}
    (h : (state.cancelLoop committed).HasFilled number) : state.HasFilled number := by
  unfold cancelLoop at h
  dsimp only at h
  split at h
  · exact h
  · exact h
  · split at h
    · exact h
    · exact @hasFilled_cancelPoll { state with loopCancelled := false } _ _ _ h
  · exact h
  · exact h

theorem polls_updateTask (world : World) (task : Task) (state : State) :
    (state.updateTask world task).polls = state.polls := by
  unfold updateTask
  dsimp only
  split <;> rfl

theorem polls_stepTask (config : Config) (number : Nat) (event : TaskEvent) (state : State) :
    (state.stepTask config number event).polls = state.polls := by
  rcases stepTask_cases config number event state with hstay | ⟨task, requested, -, -, hstep⟩
  · rw [hstay]
  · rw [hstep, polls_updateTask]

theorem polls_collectJobs (cancelJobs : Bool) (state : State) :
    (state.collectJobs cancelJobs).polls = state.polls := by
  cases cancelJobs <;> rfl

/-- A poll that fills the slots returns for one of the reasons. -/
theorem halts_step {event : Event} (hevent : AsksTable event)
    (h : (state.step config event).HasFilled number) :
    state.HasFilled number ∨ Halts config number event state (state.step config event) := by
  have hsame : ∀ after : State, after.polls = state.polls → after.HasFilled number →
      state.HasFilled number := by
    rintro after hpolls ⟨poll, hpoll, hfilled⟩
    exact ⟨poll, hpolls ▸ hpoll, hfilled⟩
  have hbegun : ∀ purpose forLoop, ∀ before : State, before.polls = state.polls →
      SameJobs state before → (before.beginPoll config purpose forLoop).HasFilled number →
      state.HasFilled number ∨
        Halts config number event state (before.beginPoll config purpose forLoop) := by
    intro purpose forLoop before hpolls hbefore hfilled
    rcases hasFilled_beginPoll hfilled with hold | hfull
    · exact .inl (hsame before hpolls hold)
    · have hafter := hbefore.trans (sameJobs_beginPoll config purpose forLoop before)
      refine .inr (.of_full ?_ hafter)
      rw [hasFreeSlot, ← hbefore.inFlight]
      exact hfull
  unfold step at h ⊢
  cases event with
  | poll => exact hbegun .one false state rfl (.refl state) h
  | fill => exact hbegun .fill false state rfl (.refl state) h
  | resume resumed =>
      have hkeeps := @sameJobs_step config (.resume resumed) trivial state
      unfold step at hkeeps
      dsimp only at h hkeeps ⊢
      split at h
      next poll hpoll =>
        split at h
        next hpoint =>
          rcases hasFilled_enter h with hold | ⟨-, hfull⟩
          · exact .inl hold
          · rw [hpoll] at hkeeps
            dsimp only at hkeeps
            rw [hpoint] at hkeeps
            exact .inr (.of_full hfull hkeeps)
        next => exact .inl h
      next => exact .inl h
  | fetched fetched reply =>
      dsimp only at h ⊢
      split at h
      next poll hpoll =>
        obtain ⟨-, rfl⟩ := poll?_eq_some hpoll
        split at h
        next hpoint => exact halts_useOldest (not_hasFilled_of_point hpoint (by simp)) hevent h
        next => exact .inl h
      next => exact .inl h
  | claimed claimed reply =>
      dsimp only at h ⊢
      split at h
      next poll hpoll =>
        obtain ⟨-, rfl⟩ := poll?_eq_some hpoll
        split at h
        next hpoint => exact halts_useClaim hpoll hpoint hevent h
        next => exact .inl h
      next => exact .inl h
  | task task event => exact .inl (hsame _ (polls_stepTask config task event state) h)
  | trigger => exact .inl h
  | loopStarts =>
      dsimp only at h ⊢
      split at h
      next hloop =>
        rw [if_pos hloop]
        exact hbegun .fill true state rfl (.refl state) h
      next => exact .inl h
  | loopResumes =>
      dsimp only at h ⊢
      split at h
      next hloop =>
        rw [if_pos hloop]
        exact hbegun .fill true _ rfl ⟨rfl, rfl, rfl⟩ h
      next => exact .inl h
  | start | loopWakes | loopTimesOut =>
      dsimp only at h
      split at h
      · exact .inl h
      · exact .inl h
  | stop cancelJobs =>
      dsimp only at h
      split at h
      · exact .inl h
      · split at h
        · exact .inl (hsame _ (polls_collectJobs cancelJobs state) h)
        · exact .inl h
  | loopCancelled committed =>
      dsimp only at h
      split at h
      · exact .inl (hasFilled_cancelLoop h)
      · exact .inl h
  | stopCollects =>
      dsimp only at h
      split at h
      · split at h
        · exact .inl (hsame _ (polls_collectJobs _ state) h)
        · exact .inl h
      · exact .inl h
  | stopFinishes =>
      dsimp only at h
      split at h
      · split at h
        · exact .inl h
        · exact .inl h
      · exact .inl h

end State

/-- Whether an action of a worker asks the table for what it claims. -/
def Action.AsksTable : Action → Prop
  | .worker _ event => State.AsksTable event
  | _ => True

namespace Fleet

variable {fleet : Fleet} {actions : List Action} {index number : Nat}

/-- Whether a poll of a worker was to fill the slots and has returned. -/
def HasFilled (index number : Nat) (fleet : Fleet) : Prop :=
  ∃ member, fleet.members[index]? = some member ∧ member.state.HasFilled number

/-- Whether a poll of a worker waits for its claim of a job. -/
def IsClaiming (index number : Nat) (id : JobId) (fleet : Fleet) : Prop :=
  ∃ member, fleet.members[index]? = some member ∧
    ∃ poll job, member.state.poll? number = some poll ∧ poll.point = .claiming job ∧ job.id = id

/-- Why a poll that fills the slots of a worker returns at an event of this worker. -/
inductive Halts (index number : Nat) (event : Event) (before after : Fleet) : Prop
  /-- All slots are busy. -/
  | full {member : Member} (hmember : after.members[index]? = some member)
      (h : member.config.limit ≤ member.state.inFlight.length)
  /-- It has looked for a queued job, and there is none. -/
  | empty (hevent : event = .fetched number .genuine) (h : ¬ before.world.store.HasQueued)
  /-- Somebody else has claimed the job that it goes for. -/
  | lost {id : JobId} (hevent : event = .claimed number .genuine)
      (hclaiming : before.IsClaiming index number id) (h : (before.world.store.claim id).1 = false)

theorem halts_step {action : Action} (haction : action.AsksTable)
    (h : (fleet.step action).HasFilled index number) :
    fleet.HasFilled index number ∨
      ∃ event, action = .worker index event ∧
        Halts index number event fleet (fleet.step action) := by
  cases action with
  | worker other event =>
      cases hmoved : fleet.members[other]? with
      | none =>
          simp only [step, hmoved] at h
          exact .inl h
      | some mover =>
          obtain ⟨member, hmember, hfilled⟩ := h
          have hstep : (fleet.step (.worker other event)).members =
              fleet.members.set other (mover.step event fleet.world).2 := by
            simp only [step, hmoved]
          have hafter := hmember
          rw [hstep] at hmember
          by_cases hother : other = index
          · subst hother
            obtain ⟨hlt, -⟩ := List.getElem?_eq_some_iff.mp hmoved
            rw [List.getElem?_set_self hlt] at hmember
            obtain rfl := Option.some.inj hmember
            rcases State.halts_step haction hfilled with hbefore | hhalts
            · exact .inl ⟨mover, hmoved, hbefore⟩
            · refine .inr ⟨event, rfl, ?_⟩
              cases hhalts with
              | full hfull => exact .full hafter hfull
              | empty hevent hempty => exact .empty hevent hempty
              | @lost poll job hevent hpoll hpoint hclaim =>
                  exact .lost hevent ⟨mover, hmoved, poll, job, hpoll, hpoint, rfl⟩ hclaim
          -- the others stay as they are
          · rw [List.getElem?_set_ne hother] at hmember
            exact .inl ⟨member, hmember, hfilled⟩
  | submit id request =>
      unfold step at h
      dsimp only at h
      split at h
      · exact .inl h
      · exact .inl h
  | submission other event =>
      unfold step at h
      dsimp only at h
      split at h
      · exact .inl h
      · exact .inl h
  | statement statement => exact .inl h

/-- A poll that fills the slots of a worker and has returned did so at some action of the
    worker, and then all slots were busy, or the look-up that the action answers found no
    queued job, or the claim that it answers was lost to somebody else. -/
theorem run_halts (hnew : fleet.IsNew) (hasks : ∀ action ∈ actions, action.AsksTable)
    (hfilled : (fleet.run actions).HasFilled index number) :
    ∃ earlier event later, actions = earlier ++ .worker index event :: later ∧
      ¬ (fleet.run earlier).HasFilled index number ∧
      ((fleet.run earlier).step (.worker index event)).HasFilled index number ∧
      Halts index number event (fleet.run earlier)
        ((fleet.run earlier).step (.worker index event)) := by
  induction actions using List.reverseRecOn with
  | nil =>
      obtain ⟨member, hmember, poll, hpoll, -⟩ := hfilled
      obtain ⟨world, hstate⟩ := hnew member (List.mem_of_getElem? hmember)
      rw [hstate] at hpoll
      cases hpoll
  | append_singleton actions action ih =>
      by_cases hbefore : (fleet.run actions).HasFilled index number
      -- the poll had returned before the last action
      · have hearlier : ∀ other ∈ actions, other.AsksTable := fun other hother =>
          hasks other (List.mem_append_left [action] hother)
        obtain ⟨earlier, event, later, hsplit, hrest⟩ := ih hearlier hbefore
        refine ⟨earlier, event, later ++ [action], ?_, hrest⟩
        rw [hsplit, List.append_assoc]
        rfl
      · have hlast : action.AsksTable := hasks action (by simp)
        rw [run_append] at hfilled
        rcases halts_step hlast hfilled with hagain | ⟨event, rfl, hhalts⟩
        · exact absurd hagain hbefore
        · exact ⟨actions, event, [], rfl, hbefore, hfilled, hhalts⟩

theorem run_halts_sampleContention :
    (sampleQueue.run sampleContention).HasFilled 0 1 ∧
      ∃ earlier event later, sampleContention = earlier ++ .worker 0 event :: later ∧
        ¬ (sampleQueue.run earlier).HasFilled 0 1 ∧
        ((sampleQueue.run earlier).step (.worker 0 event)).HasFilled 0 1 ∧
        Halts 0 1 event (sampleQueue.run earlier)
          ((sampleQueue.run earlier).step (.worker 0 event)) := by
  have hnew : sampleQueue.IsNew := by
    intro member hmember
    rw [List.mem_singleton.mp hmember]
    exact ⟨{}, rfl⟩
  have hasks : ∀ action ∈ sampleContention, action.AsksTable := by
    simp [sampleContention, Action.AsksTable, State.AsksTable]
  have hfilled : (sampleQueue.run sampleContention).HasFilled 0 1 := by
    refine ⟨_, rfl, ⟨1, .fill, [⟨8⟩], .done (.claimed [⟨8⟩])⟩, ?_, rfl, rfl, [⟨8⟩], rfl⟩
    exact List.mem_of_getElem? (i := 1) rfl
  exact ⟨hfilled, run_halts hnew hasks hfilled⟩

/-- A worker fills its slots; while it claims the older job, somebody else does. -/
def sampleLostClaim : List Action :=
  [.worker 0 .fill, .worker 0 (.fetched 0 .genuine), .statement (.claim ⟨7⟩),
   .worker 0 (.claimed 0 .genuine)]

/-- The poll returns although at every moment a slot is free and a job is queued. -/
theorem idles_sampleLostClaim :
    (sampleQueue.run sampleLostClaim).HasFilled 0 0 ∧
      ∀ earlier ∈ sampleLostClaim.inits, (sampleQueue.run earlier).world.store.HasQueued ∧
        ∀ member ∈ (sampleQueue.run earlier).members,
          (member.state.inFlight.length : Int) < member.config.limit := by
  refine ⟨?_, ?_⟩
  · refine ⟨_, rfl, ⟨0, .fill, [], .done (.claimed [])⟩, ?_, rfl, rfl, [], rfl⟩
    exact List.mem_of_getElem? (i := 0) rfl
  · decide +kernel

end Fleet

end Montage.Worker
