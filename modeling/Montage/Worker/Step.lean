/-
  Montage.Worker.Step

  How events move a worker.  Claims are made under a lock, one poll at a time, so the
  number of jobs in flight is counted and raised without another poll in between.
-/
import Montage.Worker.State

namespace Montage.Worker.State

open Montage.Jobs

/-! ## The claim lock -/

/-- Gives the lock to the poll that has waited longest. -/
def release (state : State) : State :=
  match state.queue with
  | [] => { state with holder := none }
  | next :: rest => { state with holder := some next, queue := rest }.setPoint next .granted

/-- A poll that holds the lock: at capacity it ends, else it asks for the oldest job.
    The second part says whether it goes on. -/
def enter (config : Config) (number : Nat) (state : State) : State × Bool :=
  if state.hasFreeSlot config then (state.setPoint number .fetching, true) else (state, false)

/-- A poll ends, and the loop goes on to wait if the poll was its own. -/
def endPoll (number : Nat) (result : PollResult) (state : State) : State :=
  let state := state.setPoint number (.done result)
  if state.loop = .passing number then { state with loop := .waiting } else state

/-- A poll wants the lock.  It takes a free one at once if nobody waits for it. -/
def acquire (config : Config) (poll : Poll) (state : State) : State :=
  if state.holder = none ∧ state.queue = [] then
    let (entered, goesOn) := { state with holder := some poll.number }.enter config poll.number
    if goesOn then entered
    else entered.release.endPoll poll.number (.claimed poll.claimed)
  else { state with queue := state.queue ++ [poll.number] }.setPoint poll.number .queued

/-- A poll that fills slots looks whether there is another one to fill. -/
def continueFilling (config : Config) (poll : Poll) (state : State) : State :=
  if state.hasFreeSlot config then state.acquire config poll
  else state.endPoll poll.number (.claimed poll.claimed)

/-- One claim of a poll is over; the lock is free again. -/
def concludeClaim (config : Config) (poll : Poll) (result : Except Fault (Option JobId))
    (state : State) : State :=
  let state := state.release
  match result with
  | .error fault => state.endPoll poll.number (.raised fault)
  | .ok none => state.endPoll poll.number (.claimed poll.claimed)
  | .ok (some id) =>
    let poll := { poll with claimed := poll.claimed ++ [id] }
    let state := state.setPoll poll
    match poll.purpose with
    | .one => state.endPoll poll.number (.claimed poll.claimed)
    | .fill => state.continueFilling config poll

/-- Begins a poll; gives its number. -/
def beginPoll (config : Config) (purpose : Purpose) (forLoop : Bool) (state : State) : State :=
  let poll : Poll := { number := state.polls.length, purpose }
  let state := { state with polls := state.polls ++ [poll] }
  let state := if forLoop then { state with loop := .passing poll.number } else state
  match purpose with
  | .one => state.acquire config poll
  | .fill => state.continueFilling config poll

/-! ## Claims -/

/-- The jobs in flight with a job and its task.  A job that is in flight already keeps its
    place, and its latest task counts. -/
def withEntry (id : JobId) (number : Nat) : List (JobId × Nat) → List (JobId × Nat)
  | [] => [(id, number)]
  | (other, task) :: rest =>
    if other = id then (id, number) :: rest else (other, task) :: withEntry id number rest

/-- A claimed job goes in flight with a task of its own. -/
def register (job : Job) (state : State) : State :=
  let number := state.tasks.length
  { state with
    inFlight := withEntry job.id number state.inFlight
    tasks := state.tasks ++ [{ number, job }] }

/-- The oldest queued job has been looked up. -/
def useOldest (config : Config) (poll : Poll) (reply : Reply) (state : State) : State :=
  match reply with
  | .genuine =>
    match state.world.store.oldestQueued with
    | none => state.concludeClaim config poll (.ok none)
    | some job => state.setPoint poll.number (.claiming job)
  | .instead .null => state.concludeClaim config poll (.ok none)
  | .instead value => state.concludeClaim config poll (.error (noFieldFault "id" value))
  | .raises fault _ => state.concludeClaim config poll (.error fault)

/-- The claim of a job in the table; says whether it succeeded. -/
def claimRow (id : JobId) (state : State) : Bool × State :=
  let (won, store) := state.world.store.claim id
  (won, { state with world := { state.world with store } })

/-- The outcome of a claim: the job goes in flight, or somebody else has it. -/
def settleClaim (config : Config) (poll : Poll) (job : Job) (won : Bool) (state : State) :
    State :=
  if won then (state.register job).concludeClaim config poll (.ok (some job.id))
  else state.concludeClaim config poll (.ok none)

/-- The claim has been answered. -/
def useClaim (config : Config) (poll : Poll) (job : Job) (reply : Reply) (state : State) : State :=
  match reply with
  | .genuine =>
    let (won, state) := state.claimRow job.id
    state.settleClaim config poll job won
  | .instead value => state.settleClaim config poll job value.isTruthy
  | .raises fault committed =>
    let state := if committed then (state.claimRow job.id).2 else state
    state.concludeClaim config poll (.error fault)

/-- A poll is cancelled where it stands; a claim that was committed stays without a
    task. -/
def cancelPoll (poll : Poll) (committed : Bool) (state : State) : State :=
  let state :=
    match poll.point with
    | .queued => { state with queue := state.queue.erase poll.number }
    | .granted => state.release
    | .fetching => state.release
    | .claiming job => (if committed then (state.claimRow job.id).2 else state).release
    | .done _ => state
  state.setPoint poll.number (.done .cancelled)

/-! ## Tasks -/

/-- A task has moved.  One that is over after having started takes its job out of the jobs
    in flight and asks for a poll. -/
def updateTask (world : World) (task : Task) (state : State) : State :=
  let state := { state with world }.setTask task
  match task.phase with
  | .ended .neverStarted => state
  | .ended _ =>
    { state with
      inFlight := state.inFlight.filter fun (id, _) => id ≠ task.job.id
      wakeup := true }
  | _ => state

/-- An event of a task.  It is cancelled only if that was asked for. -/
def stepTask (config : Config) (number : Nat) (event : TaskEvent) (state : State) : State :=
  match state.openTask? number with
  | none => state
  | some task =>
    match event with
    | .cancel committed =>
      if task.cancelRequested then
        let (world, task) :=
          { task with cancelRequested := false }.cancelAt config committed state.world
        state.updateTask world task
      else state
    | event =>
      let (world, task) := task.step config event state.world
      state.updateTask world task

/-! ## Loop and shutdown -/

/-- Asks tasks to stop. -/
def requestCancel (numbers : List Nat) (state : State) : State :=
  { state with
    tasks := state.tasks.map fun task =>
      if numbers.contains task.number && !task.isOver then { task with cancelRequested := true }
      else task }

/-- The shutdown turns to the jobs in flight. -/
def collectJobs (cancelJobs : Bool) (state : State) : State :=
  let numbers := state.inFlight.map Prod.snd
  let state := if cancelJobs then state.requestCancel numbers else state
  { state with stop := .joiningJobs numbers }

/-- The loop is cancelled where it stands.  A loop whose wait is already over misses
    it and goes on. -/
def cancelLoop (committed : Bool) (state : State) : State :=
  let state := { state with loopCancelled := false }
  match state.loop with
  | .off => state
  | .starting => { state with loop := .off }
  | .passing number =>
    match state.poll? number with
    | none => { state with loop := .off }
    | some poll => { state.cancelPoll poll committed with loop := .off }
  | .waiting => { state with loop := .off }
  | .resuming => state

/-- Whether all these tasks are over. -/
def allOver (numbers : List Nat) (state : State) : Bool :=
  numbers.all fun number => (state.openTask? number).isNone

/-! ## Events -/

/-- One event; an event that cannot happen in the state changes nothing. -/
def step (config : Config) (event : Event) (state : State) : State :=
  match event with
  | .poll => state.beginPoll config .one false
  | .fill => state.beginPoll config .fill false
  | .resume number =>
    match state.poll? number with
    | some poll =>
      match poll.point with
      | .granted =>
        let (entered, goesOn) := state.enter config number
        if goesOn then entered
        else entered.release.endPoll number (.claimed poll.claimed)
      | _ => state
    | none => state
  | .fetched number reply =>
    match state.poll? number with
    | some poll =>
      match poll.point with
      | .fetching => state.useOldest config poll reply
      | _ => state
    | none => state
  | .claimed number reply =>
    match state.poll? number with
    | some poll =>
      match poll.point with
      | .claiming job => state.useClaim config poll job reply
      | _ => state
    | none => state
  | .task number event => state.stepTask config number event
  | .trigger => { state with wakeup := true }
  | .start => if state.loop = .off then { state with loop := .starting } else state
  | .loopStarts => if state.loop = .starting then state.beginPoll config .fill true else state
  | .loopWakes =>
    if state.loop = .waiting ∧ state.wakeup then { state with loop := .resuming } else state
  | .loopTimesOut => if state.loop = .waiting then { state with loop := .resuming } else state
  | .loopResumes =>
    if state.loop = .resuming then { state with wakeup := false }.beginPoll config .fill true
    else state
  | .stop cancelJobs =>
    if state.stop ≠ .idle then state
    else if state.loop = .off then state.collectJobs cancelJobs
    else { state with stop := .joiningLoop cancelJobs, loopCancelled := true }
  | .loopCancelled committed => if state.loopCancelled then state.cancelLoop committed else state
  | .stopCollects =>
    match state.stop with
    | .joiningLoop cancelJobs => if state.loop = .off then state.collectJobs cancelJobs else state
    | _ => state
  | .stopFinishes =>
    match state.stop with
    | .joiningJobs numbers =>
      if state.allOver numbers then { state with inFlight := [], stop := .idle } else state
    | _ => state

end Montage.Worker.State
