/-
  Montage.Simulation.State

  A worker among scripted surroundings in virtual time.  Time moves only when nothing
  can happen at once, and then straight to the next event that is due.
-/
import Montage.Simulation.Agenda
import Montage.Worker.Step

namespace Montage.Simulation

open Montage.Jobs Montage.Number Montage.Worker

/-! ## States -/

/-- What was seen of the jobs from outside. -/
structure Ledger where
  /-- The commands that started the engine. -/
  commands : List (JobId × List String) := []
  /-- The progress that was written, in order. -/
  updates : List (JobId × Int) := []
  /-- How many engine processes were killed. -/
  killed : Nat := 0
  /-- The urls that were requested by fetchings that are over. -/
  requested : List String := []

structure State where
  config : Config
  scene : Scene := {}
  worker : Worker.State := {}
  now : Binary64 := .zero
  replies : Replies := {}
  /-- What is under way for the tasks that are not over, by number. -/
  agendas : List (Nat × Agenda) := []
  /-- When the polling loop stops waiting. -/
  loopDue : Binary64 := .zero
  /-- The number of the next job id. -/
  nextNumber : Nat := 1
  ledger : Ledger := {}

namespace State

/-! ## What comes next -/

/-- The next step of a poll. -/
def pollEvent? (replies : Replies) (poll : Poll) : Option Event :=
  match poll.point with
  | .granted => some (.resume poll.number)
  | .fetching => some (.fetched poll.number (replies.reply .fetchOldest))
  | .claiming _ => some (.claimed poll.number (replies.reply .claim))
  | .queued | .done _ => none

/-- The next step of the polling loop that takes no time. -/
def loopEvent? (worker : Worker.State) : Option Event :=
  if worker.loopCancelled then some (.loopCancelled false)
  else
    match worker.loop with
    | .starting => some .loopStarts
    | .waiting => if worker.wakeup then some .loopWakes else none
    | .resuming => some .loopResumes
    | .off | .passing _ => none

/-- The next step of a shutdown. -/
def stopEvent? (worker : Worker.State) : Option Event :=
  match worker.stop with
  | .idle => none
  | .joiningLoop _ => if worker.loop = .off then some .stopCollects else none
  | .joiningJobs numbers => if worker.allOver numbers then some .stopFinishes else none

/-- The cancellation of a task that was asked to stop. -/
def cancelEvent? (task : Task) : Option Event :=
  if task.cancelRequested && !task.isOver then some (.task task.number (.cancel false)) else none

/-- Something that happens without any time passing. -/
def instant? (state : State) : Option Event :=
  (state.worker.tasks.findSome? cancelEvent?).or <|
    (state.worker.polls.findSome? (pollEvent? state.replies)).or <|
      (loopEvent? state.worker).or (stopEvent? state.worker)

/-- What is due for the tasks. -/
def taskEvents (state : State) : List (Binary64 × Event) :=
  state.agendas.filterMap fun (number, agenda) => do
    let task ← state.worker.openTask? number
    let (due, event) ← agenda.next? state.replies state.now task
    return (due, .task number event)

/-- The end of the polling loop's wait. -/
def loopTimeout (state : State) : List (Binary64 × Event) :=
  if state.worker.loop = .waiting then [(state.loopDue, .loopTimesOut)] else []

/-- The one of two events that is due first. -/
def earlier (first second : Binary64 × Event) : Binary64 × Event :=
  if second.1.lt first.1 then second else first

/-- What happens next, and when. -/
def next? (state : State) : Option (Binary64 × Event) :=
  match state.instant? with
  | some event => some (state.now, event)
  | none =>
    match state.taskEvents ++ state.loopTimeout with
    | [] => none
    | first :: rest => some (rest.foldl earlier first)

/-! ## What an event brings about -/

/-- Starts the engine of a task as its script says. -/
def launch (task : Task) (state : State) : TaskEvent × State :=
  let script := state.scene.script task.job.id
  let output := (outputPath state.config task.job.id).text
  let (result, world) := state.worker.world.onFiles (script.launch state.config.program output)
  let state := { state with worker := { state.worker with world } }
  match result with
  | .ok () => (.launched none, state)
  | .error fault => (.launched (some fault), state)

/-- What an event of a task turns out to be when it happens. -/
def realize (task : Task) (event : TaskEvent) (state : State) : TaskEvent × State :=
  match event with
  | .launched _ => state.launch task
  | event => (event, state)

/-- Records what an event of a task shows to the outside, before it moves the task. -/
def witness (task : Task) (event : TaskEvent) (state : State) : State :=
  let id := task.job.id
  match task.phase, event with
  | .starting arguments, .launched _ =>
    let command :=
      Engine.command state.config.program arguments (outputPath state.config id).text
    { state with
      ledger := { state.ledger with commands := state.ledger.commands ++ [(id, command)] } }
  | .rendering run, .progressWritten .genuine =>
    match run.stage with
    | .reporting progress =>
      { state with
        ledger := { state.ledger with updates := state.ledger.updates ++ [(id, progress)] } }
    | _ => state
  | _, _ => state

/-- Whether a task has an engine process that was killed. -/
def hasKilled (task : Task) : Bool :=
  match task.phase with
  | .rendering run => run.killed
  | _ => false

/-- Counts an engine process that is killed as a task moves. -/
def countKill (before after : Task) (ledger : Ledger) : Ledger :=
  if hasKilled after && !hasKilled before then { ledger with killed := ledger.killed + 1 }
  else ledger

/-- The agenda of a task that has moved takes the place of the one before. -/
def replan (task : Task) (state : State) : State :=
  let number := task.number
  let before := (state.agendas.lookup number).getD .nothing
  let after := before.plan state.config.timeout state.scene state.replies state.now task
  let others := state.agendas.filter fun (other, _) => other ≠ number
  let requested := if after.isFetching then [] else before.requested state.now
  { state with
    agendas := if task.isOver then others else others ++ [(number, after)]
    ledger := { state.ledger with requested := state.ledger.requested ++ requested } }

/-- The task of an event, if the event has one. -/
def taskOf? (event : Event) (worker : Worker.State) : Option Task :=
  match event with
  | .task number _ => worker.openTask? number
  | _ => none

/-- Follows the task of an event, which stood at `before`. -/
def follow (before : Task) (state : State) : State :=
  match state.worker.task? before.number with
  | none => state
  | some after => { state with ledger := countKill before after state.ledger }.replan after

/-- The worker handles an event now; new tasks get their agendas. -/
def move (event : Event) (state : State) : State :=
  let before := state.worker
  let worker := before.step state.config event
  let state := { state with worker }
  let state :=
    if before.loop ≠ .waiting ∧ worker.loop = .waiting then
      { state with loopDue := state.now.add state.config.pollInterval }
    else state
  (worker.tasks.drop before.tasks.length).foldl (fun state task => state.replan task) state

/-- An event that is due at a time; time never goes back. -/
def handle (time : Binary64) (event : Event) (state : State) : State :=
  let state := if state.now.lt time then { state with now := time } else state
  match event, taskOf? event state.worker with
  | .task number taskEvent, some task =>
    let (taskEvent, state) := state.realize task taskEvent
    ((state.witness task taskEvent).move (.task number taskEvent)).follow task
  | event, _ => state.move event

/-! ## Letting time pass -/

/-- The most events that one passage of time handles. -/
def eventLimit : Nat := 1000000

/-- Handles what is due up to a time, and moves on to it. -/
def passTo (time : Binary64) : Nat → State → State
  | 0, state => state
  | fuel + 1, state =>
    match state.next? with
    | none => { state with now := time }
    | some (due, event) =>
      if due.le time then passTo time fuel (state.handle due event) else { state with now := time }

/-- Handles what comes until a condition holds. -/
def passUntil (condition : State → Bool) : Nat → State → State
  | 0, state => state
  | fuel + 1, state =>
    if condition state then state
    else
      match state.next? with
      | none => state
      | some (due, event) => passUntil condition fuel (state.handle due event)

/-- Lets a number of seconds pass. -/
def pass (seconds : Binary64) (state : State) : State :=
  state.passTo (state.now.add seconds) eventLimit

/-- The time after an action in which everything happens that takes no time. -/
def moment : Binary64 :=
  .ofDecimal false 1 (-6)

/-- The worker handles an event from outside. -/
def accept (event : Event) (state : State) : State :=
  state.handle state.now event

/-- All urls that have been requested. -/
def requested (state : State) : List String :=
  state.ledger.requested ++
    state.agendas.flatMap fun (_, agenda) => agenda.requested state.now

end State

end Montage.Simulation
