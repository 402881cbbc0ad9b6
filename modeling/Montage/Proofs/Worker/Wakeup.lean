/-
  Montage.Proofs.Worker.Wakeup

  Signals to the polling loop.  Somebody asks a worker for a poll, or a job of it is done; from
  then on the flag of the worker is set until a pass of its loop begins, and only the beginning
  of a pass takes the signal back.  So a loop that goes on makes a whole pass after every
  signal, whenever it comes.
-/
import Montage.Proofs.Worker.Ending
import Montage.Proofs.Worker.Fleet

namespace Montage.Worker

open Montage.Jobs

namespace State

variable {config : Config} {state : State} {number : Nat}

/-! ## The loop -/

/-- Whether the loop can take this step of its own. -/
def IsReady (event : Event) (state : State) : Prop :=
  match event with
  | .loopStarts => state.loop = .starting
  | .loopWakes => state.loop = .waiting ∧ state.wakeup = true
  | .loopResumes => state.loop = .resuming
  | _ => False

/-- Whether a pass of the loop begins with an event. -/
def BeginsPass (event : Event) (state : State) : Prop :=
  event ≠ .loopWakes ∧ state.IsReady event

/-- What an event makes of the loop and of the signal that waits for it. -/
inductive LoopMove (event : Event) (before after : State) : Prop
  /-- The loop stays where it is. -/
  | stays (hloop : after.loop = before.loop) (hkept : before.wakeup = true → after.wakeup = true)
  | starts (hbefore : before.loop = .off) (hafter : after.loop = .starting)
      (hkept : after.wakeup = before.wakeup)
  /-- A pass begins; it may be over at once. -/
  | begins (hbegins : before.BeginsPass event)
      (hafter : (∃ poll, after.loop = .passing poll) ∨ after.loop = .waiting)
  /-- The pass is over. -/
  | ends (hbefore : ∃ poll, before.loop = .passing poll) (hafter : after.loop = .waiting)
      (hkept : after.wakeup = before.wakeup)
  /-- The wait is over. -/
  | wakes (hbefore : before.loop = .waiting) (hafter : after.loop = .resuming)
      (hkept : after.wakeup = before.wakeup)
  /-- The loop is cancelled. -/
  | stops (hafter : after.loop = .off) (hkept : after.wakeup = before.wakeup)

theorem Undisturbed.loopMove {before after : State} (h : Undisturbed before after)
    (event : Event) : LoopMove event before after := by
  rcases h.loop with hsame | ⟨hpassing, hwaiting⟩
  · exact .stays hsame fun hset => h.wakeup.trans hset
  · exact .ends hpassing hwaiting h.wakeup

theorem loopMove_refl (event : Event) (state : State) : LoopMove event state state :=
  .stays rfl id

theorem loopMove_updateTask (world : World) (task : Task) (event : Event) (state : State) :
    LoopMove event state (state.updateTask world task) := by
  unfold updateTask
  dsimp only
  split
  · exact .stays rfl id
  · exact .stays rfl fun _ => rfl
  · exact .stays rfl id

theorem loopMove_collectJobs (cancelJobs : Bool) (event : Event) (state : State) :
    LoopMove event state (state.collectJobs cancelJobs) := by
  cases cancelJobs <;> exact .stays rfl id

/-- A pass that has begun goes on, or is over at once. -/
theorem loop_beginPoll (config : Config) (state : State) :
    (∃ poll, (state.beginPoll config .fill true).loop = .passing poll) ∨
      (state.beginPoll config .fill true).loop = .waiting := by
  rcases (onlyPolls_beginPoll config .fill true state).loop with hpassing | ⟨-, hwaiting⟩
  · exact .inl ⟨_, hpassing⟩
  · exact .inr hwaiting

/-- A pass that finds no free slot is over at once. -/
theorem loop_beginPoll_of_full (h : state.hasFreeSlot config = false) :
    (state.beginPoll config .fill true).loop = .waiting := by
  unfold beginPoll continueFilling
  dsimp only
  rw [if_pos rfl]
  split
  next hfree => exact absurd (h.symm.trans hfree) nofun
  next =>
    rw [endPoll]
    exact congrArg State.loop (if_pos rfl)

theorem loop_of_beginsPass {event : Event} (h : state.BeginsPass event) (config : Config) :
    (∃ poll, (state.step config event).loop = .passing poll) ∨
      (state.step config event).loop = .waiting := by
  obtain ⟨hevent, hready⟩ := h
  unfold IsReady at hready
  split at hready
  · rw [step, if_pos hready]
    exact loop_beginPoll config state
  · exact absurd rfl hevent
  · rw [step, if_pos hready]
    exact loop_beginPoll config _
  · exact hready.elim

theorem wakeup_cancelPoll (poll : Poll) (committed : Bool) (state : State) :
    (state.cancelPoll poll committed).wakeup = state.wakeup := by
  rcases onlyPolls_cancelPoll poll committed state with hsame | ⟨job, -, -, hsame⟩
  · exact hsame.wakeup
  · exact hsame.wakeup

theorem loopMove_cancelLoop (committed : Bool) (event : Event) (state : State) :
    LoopMove event state (state.cancelLoop committed) := by
  unfold cancelLoop
  dsimp only
  split
  · exact .stays rfl id
  · exact .stops rfl rfl
  · split
    · exact .stops rfl rfl
    · exact .stops rfl (wakeup_cancelPoll _ committed _)
  · exact .stops rfl rfl
  · exact .stays rfl id

/-- Every event makes one of the moves. -/
theorem loopMove_step (config : Config) (event : Event) (state : State) :
    LoopMove event state (state.step config event) := by
  unfold step
  cases event with
  | poll => exact (onlyPolls_beginPoll config .one false state).toUndisturbed.loopMove _
  | fill => exact (onlyPolls_beginPoll config .fill false state).toUndisturbed.loopMove _
  | resume number =>
      dsimp only
      split
      · split
        · exact (onlyPolls_leave config number _ state).toUndisturbed.loopMove _
        · exact loopMove_refl _ state
      · exact loopMove_refl _ state
  | fetched number reply =>
      dsimp only
      split
      · split
        · exact (onlyPolls_useOldest config _ reply state).toUndisturbed.loopMove _
        · exact loopMove_refl _ state
      · exact loopMove_refl _ state
  | claimed number reply =>
      dsimp only
      split
      · split
        · exact (undisturbed_useClaim config _ _ reply state).loopMove _
        · exact loopMove_refl _ state
      · exact loopMove_refl _ state
  | task number event =>
      rcases stepTask_cases config number event state with hstay | ⟨task, requested, -, -, hstep⟩
      · dsimp only
        rw [hstay]
        exact loopMove_refl _ state
      · dsimp only
        rw [hstep]
        exact loopMove_updateTask _ _ _ state
  | trigger => exact .stays rfl fun _ => rfl
  | start =>
      dsimp only
      split
      next hoff => exact .starts hoff rfl rfl
      next => exact loopMove_refl _ state
  | loopStarts =>
      dsimp only
      split
      next hstarting => exact .begins ⟨nofun, hstarting⟩ (loop_beginPoll config _)
      next => exact loopMove_refl _ state
  | loopWakes =>
      dsimp only
      split
      next hwaiting => exact .wakes hwaiting.1 rfl rfl
      next => exact loopMove_refl _ state
  | loopTimesOut =>
      dsimp only
      split
      next hwaiting => exact .wakes hwaiting rfl rfl
      next => exact loopMove_refl _ state
  | loopResumes =>
      dsimp only
      split
      next hresuming => exact .begins ⟨nofun, hresuming⟩ (loop_beginPoll config _)
      next => exact loopMove_refl _ state
  | stop cancelJobs =>
      dsimp only
      split
      · exact loopMove_refl _ state
      · split
        · exact loopMove_collectJobs cancelJobs _ state
        · exact .stays rfl id
  | loopCancelled committed =>
      dsimp only
      split
      · exact loopMove_cancelLoop committed _ state
      · exact loopMove_refl _ state
  | stopCollects =>
      dsimp only
      split
      · split
        · exact loopMove_collectJobs _ _ state
        · exact loopMove_refl _ state
      · exact loopMove_refl _ state
  | stopFinishes =>
      dsimp only
      split
      · split
        · exact .stays rfl id
        · exact loopMove_refl _ state
      · exact loopMove_refl _ state

/-! ## Signals -/

/-- Whether a worker is signalled with an event: somebody asks for a poll, or the work on a job
that had begun is over. -/
def Signals (config : Config) (event : Event) (state : State) : Prop :=
  event = .trigger ∨ ∃ number task, state.openTask? number = some task ∧
    task.isWaiting = false ∧ (state.step config event).openTask? number = none

theorem wakeup_of_signals {event : Event} (h : state.Signals config event) :
    (state.step config event).wakeup = true := by
  rcases h with rfl | ⟨number, task, hfind, hbegun, hover⟩
  · rfl
  · exact (clears_step hfind hbegun hover).wakeup

end State

namespace Fleet

variable {fleet : Fleet} {index : Nat}

/-! ## The loop of a worker -/

/-- Whether a pass of the loop of a worker begins with an action. -/
def BeginsPass (index : Nat) (action : Action) (fleet : Fleet) : Prop :=
  ∃ event, action = .worker index event ∧ (fleet.state index).BeginsPass event

/-- Whether a worker is signalled with an action. -/
def Signals (index : Nat) (action : Action) (fleet : Fleet) : Prop :=
  ∃ event member, action = .worker index event ∧ fleet.members[index]? = some member ∧
    ({ member.state with world := fleet.world } : State).Signals member.config event

/-- A worker whose loop is on is there. -/
theorem exists_member (h : (fleet.state index).loop ≠ .off) :
    ∃ member, fleet.members[index]? = some member ∧ fleet.state index = member.state := by
  cases hmember : fleet.members[index]? with
  | none =>
      rw [state_of_none hmember] at h
      exact absurd rfl h
  | some member => exact ⟨member, rfl, state_of_member hmember⟩

/-- A loop that waits for a signal takes up one that is there. -/
theorem loop_of_loopWakes (h : (fleet.state index).IsReady .loopWakes) :
    ((fleet.step (.worker index .loopWakes)).state index).loop = .resuming := by
  obtain ⟨member, hmember, hstate⟩ := exists_member (h.1.trans_ne nofun)
  rw [hstate] at h
  rw [state_worker hmember]
  exact congrArg State.loop (if_pos h)

/-- A pass that has begun goes on, or is over at once. -/
theorem loop_of_beginsPass {action : Action} (h : fleet.BeginsPass index action) :
    (∃ poll, ((fleet.step action).state index).loop = .passing poll) ∨
      ((fleet.step action).state index).loop = .waiting := by
  obtain ⟨event, rfl, hbegins⟩ := h
  have hon : (fleet.state index).loop ≠ .off := fun hoff => by
    obtain ⟨-, hready⟩ := hbegins
    unfold State.IsReady at hready
    split at hready <;> simp [hoff] at hready
  obtain ⟨member, hmember, hstate⟩ := exists_member hon
  rw [hstate] at hbegins
  rw [state_worker hmember]
  exact @State.loop_of_beginsPass { member.state with world := fleet.world } event hbegins
    member.config

/-- Every action makes one of the moves of the loop of a worker. -/
theorem loopMove_step (index : Nat) (action : Action) (fleet : Fleet) :
    ∃ event, State.LoopMove event (fleet.state index) ((fleet.step action).state index) ∧
      ((fleet.state index).BeginsPass event → action = .worker index event) := by
  rcases state_step index action fleet with hsame | ⟨event, member, rfl, hmember⟩
  · rw [hsame]
    exact ⟨.trigger, State.loopMove_refl _ _, fun hbegins => hbegins.2.elim⟩
  · have hmove := State.loopMove_step member.config event { member.state with world := fleet.world }
    rw [state_worker hmember, state_of_member hmember]
    refine ⟨event, ?_, fun _ => rfl⟩
    cases hmove with
    | stays hloop hkept => exact .stays hloop hkept
    | starts hbefore hafter hkept => exact .starts hbefore hafter hkept
    | begins hbegins hafter => exact .begins hbegins hafter
    | ends hbefore hafter hkept => exact .ends hbefore hafter hkept
    | wakes hbefore hafter hkept => exact .wakes hbefore hafter hkept
    | stops hafter hkept => exact .stops hafter hkept

/-! ## Schedules -/

/-- A fleet at a time, if it takes one action of a schedule after the other. -/
def after (schedule : Nat → Action) (time : Nat) (fleet : Fleet) : Fleet :=
  fleet.run ((List.range time).map schedule)

/-- A worker at a time of a schedule. -/
def stateAfter (schedule : Nat → Action) (index time : Nat) (fleet : Fleet) : State :=
  (fleet.after schedule time).state index

/-- Whether a pass of the loop of a worker begins at a time of a schedule. -/
def BeginsPassAt (schedule : Nat → Action) (index time : Nat) (fleet : Fleet) : Prop :=
  (fleet.after schedule time).BeginsPass index (schedule time)

/-- Whether the loop of a worker goes on from a time of a schedule on: it is not ended, its
passes come to an end, and a step that it can take for good is taken. -/
structure LoopGoesOn (schedule : Nat → Action) (index start : Nat) (fleet : Fleet) : Prop where
  running : ∀ time ≥ start, (fleet.stateAfter schedule index time).loop ≠ .off
  ends : ∀ time ≥ start, ∀ poll, (fleet.stateAfter schedule index time).loop = .passing poll →
    ∃ later ≥ time, (fleet.stateAfter schedule index later).loop ≠ .passing poll
  fair : ∀ event, ∀ time ≥ start,
    (∀ later ≥ time, (fleet.stateAfter schedule index later).IsReady event) →
      ∃ later ≥ time, schedule later = .worker index event

variable {schedule : Nat → Action} {time later : Nat}

theorem after_succ (schedule : Nat → Action) (time : Nat) (fleet : Fleet) :
    fleet.after schedule (time + 1) = (fleet.after schedule time).step (schedule time) := by
  rw [after, List.range_succ, List.map_append, run_append]
  rfl

/-- A loop makes one of its moves at every time. -/
theorem loopMove_after (schedule : Nat → Action) (index time : Nat) (fleet : Fleet) :
    ∃ event, State.LoopMove event (fleet.stateAfter schedule index time)
        (fleet.stateAfter schedule index (time + 1)) ∧
      ((fleet.stateAfter schedule index time).BeginsPass event →
        fleet.BeginsPassAt schedule index time) := by
  obtain ⟨event, hmove, hbegins⟩ := loopMove_step index (schedule time) (fleet.after schedule time)
  rw [← after_succ] at hmove
  exact ⟨event, hmove, fun h => ⟨event, hbegins h, h⟩⟩

/-- A signal is kept unless a pass begins. -/
theorem wakeup_succ (hquiet : ¬ fleet.BeginsPassAt schedule index time)
    (hset : (fleet.stateAfter schedule index time).wakeup = true) :
    (fleet.stateAfter schedule index (time + 1)).wakeup = true := by
  obtain ⟨event, hmove, hbegins⟩ := loopMove_after schedule index time fleet
  cases hmove with
  | stays hloop hkept => exact hkept hset
  | starts hbefore hafter hkept => exact hkept.trans hset
  | begins hpass hafter => exact absurd (hbegins hpass) hquiet
  | ends hbefore hafter hkept => exact hkept.trans hset
  | wakes hbefore hafter hkept => exact hkept.trans hset
  | stops hafter hkept => exact hkept.trans hset

/-- A signal is kept until a pass begins. -/
theorem wakeup_of_signals (hsignal : (fleet.after schedule time).Signals index (schedule time))
    (hlater : time < later)
    (hquiet : ∀ between, time < between → between < later →
      ¬ fleet.BeginsPassAt schedule index between) :
    (fleet.stateAfter schedule index later).wakeup = true := by
  induction hlater with
  | refl =>
      obtain ⟨event, member, haction, hmember, hsignals⟩ := hsignal
      rw [stateAfter, after_succ, haction, state_worker hmember]
      exact State.wakeup_of_signals hsignals
  | @step later hlater ih =>
      refine wakeup_succ (hquiet later hlater (Nat.lt_succ_self later)) (ih ?_)
      exact fun between hafter hbefore => hquiet between hafter (Nat.lt_succ_of_lt hbefore)

/-! ## A loop that goes on -/

/-- How many steps a loop is from where its next pass can only begin. -/
def stage : Loop → Nat
  | .passing _ => 2
  | .waiting => 1
  | .off | .starting | .resuming => 0

section

variable {start : Nat} (hgoes : fleet.LoopGoesOn schedule index start)
include hgoes

/-- A loop that begins no pass stays where it is or comes nearer to its next pass. -/
theorem stage_succ (hstart : start ≤ time) (hquiet : ¬ fleet.BeginsPassAt schedule index time) :
    (fleet.stateAfter schedule index (time + 1)).loop =
        (fleet.stateAfter schedule index time).loop ∨
      stage (fleet.stateAfter schedule index (time + 1)).loop <
        stage (fleet.stateAfter schedule index time).loop := by
  obtain ⟨event, hmove, hbegins⟩ := loopMove_after schedule index time fleet
  cases hmove with
  | stays hloop hkept => exact .inl hloop
  | starts hbefore hafter hkept => exact absurd hbefore (hgoes.running time hstart)
  | begins hpass hafter => exact absurd (hbegins hpass) hquiet
  | ends hbefore hafter hkept =>
      obtain ⟨poll, hpassing⟩ := hbefore
      rw [hafter, hpassing]
      exact .inr (Nat.lt_succ_self 1)
  | wakes hbefore hafter hkept =>
      rw [hafter, hbefore]
      exact .inr Nat.zero_lt_one
  | stops hafter hkept => exact absurd hafter (hgoes.running (time + 1) (by omega))

/-- A loop that begins no pass and does not stay where it is comes nearer to its next pass. -/
theorem exists_stage_lt (hstart : start ≤ time)
    (hquiet : ∀ later ≥ time, ¬ fleet.BeginsPassAt schedule index later) (hlater : time ≤ later)
    (hmoved : (fleet.stateAfter schedule index later).loop ≠
      (fleet.stateAfter schedule index time).loop) :
    ∃ nearer ≥ time, stage (fleet.stateAfter schedule index nearer).loop <
      stage (fleet.stateAfter schedule index time).loop := by
  induction hlater with
  | refl => exact absurd rfl hmoved
  | @step later hlater ih =>
      by_cases hstill : (fleet.stateAfter schedule index later).loop =
          (fleet.stateAfter schedule index time).loop
      · rcases stage_succ hgoes (Nat.le_trans hstart hlater) (hquiet later hlater) with
          hsame | hless
        · exact absurd (hsame.trans hstill) hmoved
        · rw [hstill] at hless
          exact ⟨later + 1, Nat.le_succ_of_le hlater, hless⟩
      · exact ih hstill

/-- A loop that has been signalled and begins no pass does not stay where it is. -/
theorem exists_moved (hstart : start ≤ time)
    (hquiet : ∀ later ≥ time, ¬ fleet.BeginsPassAt schedule index later)
    (hset : ∀ later ≥ time, (fleet.stateAfter schedule index later).wakeup = true) :
    ∃ later ≥ time, (fleet.stateAfter schedule index later).loop ≠
      (fleet.stateAfter schedule index time).loop := by
  by_contra hnever
  have hstill : ∀ later ≥ time, (fleet.stateAfter schedule index later).loop =
      (fleet.stateAfter schedule index time).loop := fun later hlater => by
    by_contra hmoved
    exact hnever ⟨later, hlater, hmoved⟩
  have hbegins : ∀ event, event ≠ .loopWakes →
      (∀ later ≥ time, (fleet.stateAfter schedule index later).IsReady event) → False := by
    intro event hevent hready
    obtain ⟨later, hlater, haction⟩ := hgoes.fair event time hstart hready
    exact hquiet later hlater ⟨event, haction, hevent, hready later hlater⟩
  cases hloop : (fleet.stateAfter schedule index time).loop with
  | off => exact hgoes.running time hstart hloop
  | starting =>
      exact hbegins .loopStarts nofun fun later hlater => (hstill later hlater).trans hloop
  | passing poll =>
      obtain ⟨later, hlater, hover⟩ := hgoes.ends time hstart poll hloop
      exact hover ((hstill later hlater).trans hloop)
  | waiting =>
      have hready : ∀ later ≥ time, (fleet.stateAfter schedule index later).IsReady .loopWakes :=
        fun later hlater => ⟨(hstill later hlater).trans hloop, hset later hlater⟩
      obtain ⟨later, hlater, haction⟩ := hgoes.fair .loopWakes time hstart hready
      have hwakes : (fleet.stateAfter schedule index (later + 1)).loop = .resuming := by
        rw [stateAfter, after_succ, haction]
        exact loop_of_loopWakes (hready later hlater)
      rw [hstill (later + 1) (by omega), hloop] at hwakes
      cases hwakes
  | resuming =>
      exact hbegins .loopResumes nofun fun later hlater => (hstill later hlater).trans hloop

/-- A pass begins after every signal. -/
theorem exists_beginsPass (hstart : start ≤ time)
    (hset : ∀ later ≥ time, (∀ between ≥ time, between < later →
      ¬ fleet.BeginsPassAt schedule index between) →
        (fleet.stateAfter schedule index later).wakeup = true) :
    ∃ pass ≥ time, fleet.BeginsPassAt schedule index pass := by
  by_contra hnever
  have hquiet : ∀ later ≥ time, ¬ fleet.BeginsPassAt schedule index later :=
    fun later hlater hbegins => hnever ⟨later, hlater, hbegins⟩
  have hkept : ∀ later ≥ time, (fleet.stateAfter schedule index later).wakeup = true :=
    fun later hlater => hset later hlater fun between hafter _ => hquiet between hafter
  -- the stage would sink for ever
  have hsinks : ∀ level, ∀ now ≥ time,
      stage (fleet.stateAfter schedule index now).loop ≠ level := by
    intro level
    induction level using Nat.strongRecOn with
    | ind level ih =>
        intro now hnow hlevel
        have hquietNow : ∀ later ≥ now, ¬ fleet.BeginsPassAt schedule index later :=
          fun later hlater => hquiet later (Nat.le_trans hnow hlater)
        obtain ⟨later, hlater, hmoved⟩ := exists_moved hgoes (Nat.le_trans hstart hnow) hquietNow
          fun later hlater => hkept later (Nat.le_trans hnow hlater)
        obtain ⟨nearer, hnearer, hless⟩ :=
          exists_stage_lt hgoes (Nat.le_trans hstart hnow) hquietNow hlater hmoved
        exact ih _ (hlevel ▸ hless) nearer (Nat.le_trans hnow hnearer) rfl
  exact hsinks _ time (Nat.le_refl time) rfl

/-- A loop that is in a pass stays there until it waits. -/
theorem passing_or_exists_waiting {poll : Nat} (hstart : start ≤ time)
    (hpassing : (fleet.stateAfter schedule index time).loop = .passing poll)
    (hlater : time ≤ later) :
    (fleet.stateAfter schedule index later).loop = .passing poll ∨
      ∃ done ≥ time, (fleet.stateAfter schedule index done).loop = .waiting := by
  induction hlater with
  | refl => exact .inl hpassing
  | @step later hlater ih =>
      refine ih.elim (fun hstill => ?_) .inr
      obtain ⟨event, hmove, -⟩ := loopMove_after schedule index later fleet
      have hnext : time ≤ later + 1 := Nat.le_succ_of_le hlater
      cases hmove with
      | stays hloop hkept => exact .inl (hloop.trans hstill)
      | starts hbefore hafter hkept => exact absurd (hbefore.symm.trans hstill) nofun
      | begins hpass hafter =>
          obtain ⟨-, hready⟩ := hpass
          unfold State.IsReady at hready
          split at hready
          · exact absurd (hready.symm.trans hstill) nofun
          · exact absurd (hready.1.symm.trans hstill) nofun
          · exact absurd (hready.symm.trans hstill) nofun
          · exact hready.elim
      | ends hbefore hafter hkept => exact .inr ⟨later + 1, hnext, hafter⟩
      | wakes hbefore hafter hkept => exact absurd (hbefore.symm.trans hstill) nofun
      | stops hafter hkept =>
          exact absurd hafter (hgoes.running (later + 1) (Nat.le_trans hstart hnext))

/-- A pass that has begun comes to its end, and then the loop waits. -/
theorem exists_waiting (hstart : start ≤ time)
    (hbegins : fleet.BeginsPassAt schedule index time) :
    ∃ done > time, (fleet.stateAfter schedule index done).loop = .waiting := by
  have hnext : start ≤ time + 1 := Nat.le_succ_of_le hstart
  have hloop := loop_of_beginsPass hbegins
  rw [← after_succ] at hloop
  rcases hloop with ⟨poll, hpassing⟩ | hwaiting
  · obtain ⟨later, hlater, hover⟩ := hgoes.ends (time + 1) hnext poll hpassing
    rcases passing_or_exists_waiting hgoes hnext hpassing hlater with
      hstill | ⟨done, hafter, hwaiting⟩
    · exact absurd hstill hover
    · exact ⟨done, hafter, hwaiting⟩
  · exact ⟨time + 1, Nat.lt_succ_self time, hwaiting⟩

end

/-! ## Signals are heeded -/

/-- What becomes of a signal that reaches a worker at a time of a schedule. -/
structure Heeds (schedule : Nat → Action) (index time : Nat) (fleet : Fleet) : Prop where
  /-- It is kept until a pass of the loop begins. -/
  kept : ∀ later > time, (∀ between, time < between → between < later →
    ¬ fleet.BeginsPassAt schedule index between) →
      (fleet.stateAfter schedule index later).wakeup = true
  /-- If the loop goes on, it makes a whole pass afterwards. -/
  heeded : fleet.LoopGoesOn schedule index (time + 1) →
    ∃ pass > time, fleet.BeginsPassAt schedule index pass ∧
      ∃ done > pass, (fleet.stateAfter schedule index done).loop = .waiting

/-- Whatever workers, submissions and others do, in any order and for however long, no signal
is lost: the flag is set from a signal until the loop begins its next pass. -/
theorem after_heeds (hsignal : (fleet.after schedule time).Signals index (schedule time)) :
    fleet.Heeds schedule index time := by
  have hkept : ∀ later > time, (∀ between, time < between → between < later →
      ¬ fleet.BeginsPassAt schedule index between) →
        (fleet.stateAfter schedule index later).wakeup = true :=
    fun later hlater => wakeup_of_signals hsignal hlater
  refine ⟨hkept, fun hgoes => ?_⟩
  obtain ⟨pass, hpass, hbegins⟩ := exists_beginsPass hgoes (Nat.le_refl (time + 1)) hkept
  exact ⟨pass, hpass, hbegins, exists_waiting hgoes hpass hbegins⟩

/-! ## A signal after the wait -/

/-- A worker whose only slot is busy. -/
def sampleBusy : Fleet :=
  { input := sampleConfig.input
    world := { store := ⟨[sampleRow]⟩ }
    members := [⟨sampleConfig, { inFlight := [(⟨7⟩, 0)]
                                 tasks := [{ number := 0, job := sampleRow, phase := .reading }] }⟩] }

/-- The loop starts; from then on, again and again, its wait ends by itself, and somebody signals
before it goes on. -/
def sampleRounds : Nat → Action
  | 0 => .worker 0 .start
  | 1 => .worker 0 .loopStarts
  | time + 2 =>
    match time % 3 with
    | 0 => .worker 0 .loopTimesOut
    | 1 => .worker 0 .trigger
    | _ => .worker 0 .loopResumes

/-- Whether the loop of a busy worker stands here. -/
def StandsAt (loop : Loop) (fleet : Fleet) : Prop :=
  ∃ state, fleet.members = [⟨sampleConfig, state⟩] ∧ state.loop = loop ∧
    state.hasFreeSlot sampleConfig = false

theorem StandsAt.loop {loop : Loop} (h : fleet.StandsAt loop) : (fleet.state 0).loop = loop := by
  obtain ⟨state, hmembers, rfl, -⟩ := h
  rw [Fleet.state, hmembers]
  rfl

theorem StandsAt.step {loop next : Loop} {event : Event} (h : fleet.StandsAt loop)
    (hstep : ∀ state : State, state.loop = loop → state.hasFreeSlot sampleConfig = false →
      (state.step sampleConfig event).loop = next ∧
        (state.step sampleConfig event).inFlight = state.inFlight) :
    (fleet.step (.worker 0 event)).StandsAt next := by
  obtain ⟨state, hmembers, hloop, hbusy⟩ := h
  obtain ⟨hnext, hinFlight⟩ := hstep { state with world := fleet.world } hloop hbusy
  refine ⟨_, ?_, hnext, ?_⟩
  · simp only [Fleet.step, hmembers, List.getElem?_cons_zero, List.set_cons_zero]
    rfl
  · rw [State.hasFreeSlot, hinFlight]
    exact hbusy

theorem sampleRounds_busy (round : Nat) :
    sampleRounds (3 * round + 2) = .worker 0 .loopTimesOut ∧
      sampleRounds (3 * round + 3) = .worker 0 .trigger ∧
      sampleRounds (3 * round + 4) = .worker 0 .loopResumes := by
  simp [sampleRounds, Nat.add_mod]

/-- The loop goes round and round. -/
theorem standsAt_sampleRounds (round : Nat) :
    (sampleBusy.after sampleRounds (3 * round + 2)).StandsAt .waiting ∧
      (sampleBusy.after sampleRounds (3 * round + 3)).StandsAt .resuming ∧
      (sampleBusy.after sampleRounds (3 * round + 4)).StandsAt .resuming := by
  have hbegins : ∀ state : State, state.hasFreeSlot sampleConfig = false →
      (state.beginPoll sampleConfig .fill true).loop = .waiting ∧
        (state.beginPoll sampleConfig .fill true).inFlight = state.inFlight :=
    fun state hbusy => ⟨State.loop_beginPoll_of_full hbusy, (State.sameJobs_beginPoll _ _ _ _).inFlight⟩
  have hround : ∀ time, (sampleBusy.after sampleRounds (3 * time + 2)).StandsAt .waiting →
      (sampleBusy.after sampleRounds (3 * time + 3)).StandsAt .resuming ∧
        (sampleBusy.after sampleRounds (3 * time + 4)).StandsAt .resuming := by
    intro time hwaiting
    obtain ⟨htimeout, htrigger, -⟩ := sampleRounds_busy time
    have hresuming : (sampleBusy.after sampleRounds (3 * time + 3)).StandsAt .resuming := by
      rw [after_succ, htimeout]
      exact hwaiting.step fun state hloop _ => by simp [State.step, hloop]
    refine ⟨hresuming, ?_⟩
    rw [after_succ, htrigger]
    exact hresuming.step fun state hloop _ => ⟨hloop, rfl⟩
  induction round with
  | zero =>
      have hoff : sampleBusy.StandsAt .off := ⟨_, rfl, rfl, by decide⟩
      have hstarting : (sampleBusy.step (.worker 0 .start)).StandsAt .starting :=
        hoff.step fun state hloop _ => by simp [State.step, hloop]
      have hwaiting : (sampleBusy.after sampleRounds 2).StandsAt .waiting := by
        refine hstarting.step fun state hloop hbusy => ?_
        rw [State.step, if_pos hloop]
        exact hbegins state hbusy
      exact ⟨hwaiting, hround 0 hwaiting⟩
  | succ round ih =>
      obtain ⟨-, -, hresumes⟩ := sampleRounds_busy round
      have hwaiting : (sampleBusy.after sampleRounds (3 * (round + 1) + 2)).StandsAt .waiting := by
        show (sampleBusy.after sampleRounds (3 * round + 4 + 1)).StandsAt .waiting
        rw [after_succ, hresumes]
        refine ih.2.2.step fun state hloop hbusy => ?_
        rw [State.step, if_pos hloop]
        exact hbegins { state with wakeup := false } hbusy
      exact ⟨hwaiting, hround (round + 1) hwaiting⟩

/-- The loop has stopped starting, and its passes are over at once. -/
theorem loop_sampleRounds {time : Nat} (h : 2 ≤ time) :
    (sampleBusy.stateAfter sampleRounds 0 time).loop = .waiting ∨
      (sampleBusy.stateAfter sampleRounds 0 time).loop = .resuming := by
  obtain ⟨hwaiting, hresuming, hsignalled⟩ := standsAt_sampleRounds ((time - 2) / 3)
  have htime : time = 3 * ((time - 2) / 3) + 2 ∨ time = 3 * ((time - 2) / 3) + 3 ∨
      time = 3 * ((time - 2) / 3) + 4 := by omega
  rcases htime with hfirst | hsecond | hthird
  · rw [hfirst]
    exact .inl hwaiting.loop
  · rw [hsecond]
    exact .inr hresuming.loop
  · rw [hthird]
    exact .inr hsignalled.loop

theorem loopGoesOn_sampleRounds : sampleBusy.LoopGoesOn sampleRounds 0 4 where
  running time htime hoff := by
    have hloop := loop_sampleRounds (Nat.le_trans (by decide : 2 ≤ 4) htime)
    rw [hoff] at hloop
    exact hloop.elim nofun nofun
  ends time htime poll hpassing := by
    have hloop := loop_sampleRounds (Nat.le_trans (by decide : 2 ≤ 4) htime)
    rw [hpassing] at hloop
    exact hloop.elim nofun nofun
  -- there is no step that the loop could always take
  fair event time _ hready := by
    obtain ⟨hwaiting, hresuming, -⟩ := standsAt_sampleRounds time
    have hfirst := hready (3 * time + 2) (by omega)
    have hsecond := hready (3 * time + 3) (by omega)
    unfold State.IsReady at hfirst hsecond
    split at hfirst
    · exact absurd (hwaiting.loop.symm.trans hfirst) nofun
    · exact absurd (hresuming.loop.symm.trans hsecond.1) nofun
    · exact absurd (hwaiting.loop.symm.trans hfirst) nofun
    · exact hfirst.elim

/-- A signal that comes after the wait is kept, and heeded by the pass that follows. -/
theorem after_heeds_sampleRounds :
    (sampleBusy.after sampleRounds 3).Signals 0 (sampleRounds 3) ∧
      sampleBusy.LoopGoesOn sampleRounds 0 4 ∧ sampleBusy.Heeds sampleRounds 0 3 := by
  have hsignal : (sampleBusy.after sampleRounds 3).Signals 0 (sampleRounds 3) := by
    obtain ⟨state, hmembers, -⟩ := (standsAt_sampleRounds 0).2.1
    refine ⟨.trigger, ⟨sampleConfig, state⟩, rfl, ?_, .inl rfl⟩
    rw [hmembers]
    rfl
  exact ⟨hsignal, loopGoesOn_sampleRounds, after_heeds hsignal⟩

end Fleet

end Montage.Worker
