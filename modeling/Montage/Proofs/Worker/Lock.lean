/-
  Montage.Proofs.Worker.Lock

  The claim lock.  A poll that is inside the lock is the only one there, and one that
  looks up or claims a job has seen a free slot since it came in.  Nobody else can take
  that slot, so it is still free when the claim has succeeded.
-/
import Montage.Proofs.Worker.Frame

namespace Montage.Worker

open Montage.Jobs

/-! ## Polls inside the lock -/

/-- Whether a poll that waits here has the lock. -/
def Point.isInside : Point → Bool
  | .granted => true
  | .fetching => true
  | .claiming _ => true
  | .queued => false
  | .done _ => false

/-- Whether a poll that waits here goes on to fill a slot that it has seen free. -/
def Point.fillsSlot : Point → Bool
  | .fetching => true
  | .claiming _ => true
  | .granted => false
  | .queued => false
  | .done _ => false

namespace State

variable {config : Config} {state : State} {number : Nat}

/-- A poll that is inside holds the lock, and the slot that it goes on to fill is free. -/
structure Admits (config : Config) (state : State) (poll : Poll) : Prop where
  holder : poll.point.isInside = true → state.holder = some poll.number
  room : poll.point.fillsSlot = true → state.hasFreeSlot config = true

/-- All polls respect the lock. -/
def Orderly (config : Config) (state : State) : Prop :=
  ∀ poll ∈ state.polls, state.Admits config poll

/-- All polls respect the lock, but for one that is being moved. -/
def OrderlyBut (number : Nat) (config : Config) (state : State) : Prop :=
  ∀ poll ∈ state.polls, poll.number ≠ number → state.Admits config poll

/-- No other poll is inside. -/
def Alone (number : Nat) (state : State) : Prop :=
  ∀ poll ∈ state.polls, poll.number ≠ number → poll.point.isInside = false

theorem Orderly.but (h : state.Orderly config) (number : Nat) : state.OrderlyBut number config :=
  fun poll hpoll _ => h poll hpoll

theorem poll?_eq_some {poll : Poll} (h : state.poll? number = some poll) :
    poll ∈ state.polls ∧ poll.number = number :=
  ⟨List.mem_of_find?_eq_some h, by simpa using List.find?_some h⟩

/-- A poll that is inside is there alone. -/
theorem Orderly.alone (h : state.Orderly config) {poll : Poll} (hpoll : poll ∈ state.polls)
    (hinside : poll.point.isInside = true) : state.Alone poll.number := by
  intro other hother hne
  by_contra hnot
  have hsame := (h other hother).holder (by simpa using hnot)
  rw [(h poll hpoll).holder hinside] at hsame
  exact hne (Option.some.inj hsame).symm

theorem Point.isInside_of_fillsSlot {point : Point} (h : point.fillsSlot = true) :
    point.isInside = true := by
  cases point <;> first | rfl | cases h

/-- While a poll is alone, the others have nothing to respect. -/
theorem Alone.but (h : state.Alone number) (config : Config) : state.OrderlyBut number config := by
  intro poll hpoll hne
  have hout := h poll hpoll hne
  refine ⟨fun hinside => ?_, fun hfills => ?_⟩
  · rw [hout] at hinside
    cases hinside
  · rw [Point.isInside_of_fillsSlot hfills] at hout
    cases hout

/-! ## Moves of a poll -/

theorem orderly_setPoint {point : Point} (h : state.OrderlyBut number config)
    (hinside : point.isInside = true → state.holder = some number)
    (hfills : point.fillsSlot = true → state.hasFreeSlot config = true) :
    (state.setPoint number point).Orderly config := by
  intro poll hpoll
  obtain ⟨other, hother, rfl⟩ := List.mem_map.mp hpoll
  by_cases hnumber : other.number = number
  · rw [if_pos hnumber]
    exact ⟨fun hin => hnumber ▸ hinside hin, hfills⟩
  · rw [if_neg hnumber]
    exact ⟨(h other hother hnumber).holder, (h other hother hnumber).room⟩

theorem orderly_endPoll (result : PollResult) (h : state.OrderlyBut number config) :
    (state.endPoll number result).Orderly config := by
  have hdone : (state.setPoint number (.done result)).Orderly config :=
    orderly_setPoint h nofun nofun
  unfold endPoll
  dsimp only
  split
  · exact fun poll hpoll => ⟨(hdone poll hpoll).holder, (hdone poll hpoll).room⟩
  · exact hdone

/-- A poll that gives the lock back lets the next one in, which has seen no slot yet. -/
theorem orderlyBut_release (config : Config) (h : state.Alone number) :
    state.release.OrderlyBut number config := by
  have hout := h.but config
  unfold release
  split
  next =>
    intro poll hpoll hne
    refine ⟨fun hinside => ?_, (hout poll hpoll hne).room⟩
    rw [h poll hpoll hne] at hinside
    cases hinside
  next next rest _ =>
    intro poll hpoll hne
    obtain ⟨other, hother, rfl⟩ := List.mem_map.mp hpoll
    by_cases hnext : other.number = next
    · rw [if_pos hnext]
      exact ⟨fun _ => congrArg some hnext.symm, nofun⟩
    · rw [if_neg hnext] at hne ⊢
      refine ⟨fun hinside => ?_, (hout other hother hne).room⟩
      rw [h other hother hne] at hinside
      cases hinside

/-- A poll that was let in looks for a free slot, and leaves if there is none. -/
theorem orderly_enter (h : state.Alone number) (hholder : state.holder = some number)
    (result : PollResult) :
    (if (state.enter config number).2 then (state.enter config number).1
      else (state.enter config number).1.release.endPoll number result).Orderly config := by
  unfold enter
  by_cases hfree : state.hasFreeSlot config = true
  · rw [if_pos hfree, if_pos rfl]
    exact orderly_setPoint (h.but config) (fun _ => hholder) (fun _ => hfree)
  · rw [if_neg hfree, if_neg Bool.false_ne_true]
    exact orderly_endPoll result (orderlyBut_release config h)

theorem orderly_acquire {poll : Poll} (h : state.OrderlyBut poll.number config) :
    (state.acquire config poll).Orderly config := by
  unfold acquire
  split
  next hidle =>
    -- nobody holds the lock, so nobody is inside
    have halone : ({ state with holder := some poll.number } : State).Alone poll.number := by
      intro other hother hne
      by_contra hnot
      have hsome := (h other hother hne).holder (by simpa using hnot)
      rw [hidle.1] at hsome
      cases hsome
    exact orderly_enter halone rfl (.claimed poll.claimed)
  next =>
    refine orderly_setPoint (fun other hother hne => ?_) nofun nofun
    exact ⟨(h other hother hne).holder, (h other hother hne).room⟩

theorem orderly_continueFilling {poll : Poll} (h : state.OrderlyBut poll.number config) :
    (state.continueFilling config poll).Orderly config := by
  unfold continueFilling
  split
  · exact orderly_acquire h
  · exact orderly_endPoll _ h

/-! ## Claims -/

/-- Once its claim is over, the poll goes on without the lock or asks for it again. -/
theorem orderly_concludeClaim {poll : Poll} (result : Except Fault (Option JobId))
    (h : state.Alone poll.number) : (state.concludeClaim config poll result).Orderly config := by
  have hrelease := orderlyBut_release config h
  unfold concludeClaim
  dsimp only
  split
  · exact orderly_endPoll _ hrelease
  · exact orderly_endPoll _ hrelease
  next id =>
    have hset : (state.release.setPoll { poll with claimed := poll.claimed ++ [id] }).OrderlyBut
        poll.number config := by
      intro next hnext hne
      obtain ⟨other, hother, rfl⟩ := List.mem_map.mp hnext
      by_cases hnumber : other.number = poll.number
      · rw [if_pos hnumber] at hne
        exact absurd rfl hne
      · rw [if_neg hnumber]
        exact ⟨(hrelease other hother hnumber).holder, (hrelease other hother hnumber).room⟩
    split
    · exact orderly_endPoll _ hset
    · exact orderly_continueFilling hset

theorem orderly_beginPoll (purpose : Purpose) (forLoop : Bool) (h : state.Orderly config) :
    (state.beginPoll config purpose forLoop).Orderly config := by
  -- all polls but the new one are as they were
  have hnew : ∀ loop, ({ state with
      polls := state.polls ++ [{ number := state.polls.length, purpose }], loop } : State).OrderlyBut
        state.polls.length config := by
    intro loop poll hpoll hne
    rcases List.mem_append.mp hpoll with hold | hlast
    · exact ⟨(h poll hold).holder, (h poll hold).room⟩
    · rw [List.mem_singleton.mp hlast] at hne
      exact absurd rfl hne
  unfold beginPoll
  cases forLoop <;> cases purpose
  · exact orderly_acquire (hnew state.loop)
  · exact orderly_continueFilling (hnew state.loop)
  · exact orderly_acquire (hnew _)
  · exact orderly_continueFilling (hnew _)

theorem orderly_useOldest {poll : Poll} (h : state.Orderly config) (hpoll : poll ∈ state.polls)
    (hpoint : poll.point = .fetching) (reply : Reply) :
    (state.useOldest config poll reply).Orderly config := by
  have hinside : poll.point.isInside = true := by rw [hpoint]; rfl
  have halone := h.alone hpoll hinside
  unfold useOldest
  split
  · split
    · exact orderly_concludeClaim _ halone
    · refine orderly_setPoint (h.but poll.number) (fun _ => ?_) (fun _ => ?_)
      · exact (h poll hpoll).holder hinside
      · exact (h poll hpoll).room (by rw [hpoint]; rfl)
  · exact orderly_concludeClaim _ halone
  · exact orderly_concludeClaim _ halone
  · exact orderly_concludeClaim _ halone

theorem orderly_useClaim {poll : Poll} {job : Job} (h : state.Orderly config)
    (hpoll : poll ∈ state.polls) (hpoint : poll.point = .claiming job) (reply : Reply) :
    (state.useClaim config poll job reply).Orderly config := by
  have halone : state.Alone poll.number := h.alone hpoll (by rw [hpoint]; rfl)
  -- neither the table nor the jobs in flight matter to who is inside
  have hsettle : ∀ (before : State) (won : Bool), before.Alone poll.number →
      (before.settleClaim config poll job won).Orderly config := by
    intro before won hbefore
    unfold settleClaim
    split
    · exact orderly_concludeClaim _ hbefore
    · exact orderly_concludeClaim _ hbefore
  unfold useClaim
  split
  · exact hsettle _ _ halone
  · exact hsettle _ _ halone
  · refine orderly_concludeClaim _ ?_
    split
    · exact halone
    · exact halone

/-! ## Tasks -/

/-- Tasks that end only make room. -/
theorem length_inFlight_updateTask (world : World) (task : Task) (state : State) :
    (state.updateTask world task).inFlight.length ≤ state.inFlight.length := by
  unfold updateTask
  dsimp only
  split
  · exact Nat.le_refl _
  · exact List.length_filter_le _ _
  · exact Nat.le_refl _

theorem orderly_updateTask (world : World) (task : Task) (h : state.Orderly config) :
    (state.updateTask world task).Orderly config := by
  have hpolls : (state.updateTask world task).polls = state.polls ∧
      (state.updateTask world task).holder = state.holder := by
    unfold updateTask
    dsimp only
    split <;> exact ⟨rfl, rfl⟩
  intro poll hpoll
  rw [hpolls.1] at hpoll
  refine ⟨fun hinside => hpolls.2.trans ((h poll hpoll).holder hinside), fun hfills => ?_⟩
  have hroom := (h poll hpoll).room hfills
  have hless := length_inFlight_updateTask world task state
  simp only [hasFreeSlot, decide_eq_true_eq] at hroom ⊢
  omega

theorem orderly_stepTask (task : Nat) (event : TaskEvent) (h : state.Orderly config) :
    (state.stepTask config task event).Orderly config := by
  unfold stepTask
  split
  · exact h
  · split
    · split
      · exact orderly_updateTask _ _ h
      · exact h
    · exact orderly_updateTask _ _ h

/-! ## Events -/

/-- Whether a worker is left to run: nobody asks it to stop. -/
def LetsRun : Event → Prop
  | .stop _ => False
  | _ => True

/-- Whether a worker neither stops nor was asked to. -/
structure Unstopped (state : State) : Prop where
  stop : state.stop = .idle
  loop : state.loopCancelled = false
  tasks : ∀ task ∈ state.tasks, task.cancelRequested = false

theorem orderly_step (hstop : state.Unstopped) {event : Event} (hevent : LetsRun event)
    (h : state.Orderly config) : (state.step config event).Orderly config := by
  unfold step
  cases event with
  | poll => exact orderly_beginPoll .one false h
  | fill => exact orderly_beginPoll .fill false h
  | resume number =>
      dsimp only
      split
      next poll hfind =>
        obtain ⟨hpoll, rfl⟩ := poll?_eq_some hfind
        split
        next hpoint =>
          have hinside : poll.point.isInside = true := by rw [hpoint]; rfl
          exact orderly_enter (h.alone hpoll hinside) ((h poll hpoll).holder hinside) _
        next => exact h
      next => exact h
  | fetched number reply =>
      dsimp only
      split
      next poll hfind =>
        split
        next hpoint => exact orderly_useOldest h (poll?_eq_some hfind).1 hpoint reply
        next => exact h
      next => exact h
  | claimed number reply =>
      dsimp only
      split
      next poll hfind =>
        split
        next job hpoint => exact orderly_useClaim h (poll?_eq_some hfind).1 hpoint reply
        next => exact h
      next => exact h
  | task number event => exact orderly_stepTask number event h
  | trigger => exact fun poll hpoll => ⟨(h poll hpoll).holder, (h poll hpoll).room⟩
  | loopStarts =>
      dsimp only
      split
      · exact orderly_beginPoll .fill true h
      · exact h
  | loopResumes =>
      dsimp only
      split
      · refine orderly_beginPoll .fill true fun poll hpoll => ?_
        exact ⟨(h poll hpoll).holder, (h poll hpoll).room⟩
      · exact h
  | start | loopWakes | loopTimesOut =>
      dsimp only
      split
      · exact fun poll hpoll => ⟨(h poll hpoll).holder, (h poll hpoll).room⟩
      · exact h
  | stop cancelJobs => exact hevent.elim
  | loopCancelled committed =>
      dsimp only
      rw [hstop.loop, if_neg Bool.false_ne_true]
      exact h
  | stopCollects =>
      rw [hstop.stop]
      exact h
  | stopFinishes =>
      rw [hstop.stop]
      exact h

end State

end Montage.Worker
