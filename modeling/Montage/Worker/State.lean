/-
  Montage.Worker.State

  A worker: the jobs it has in flight with their tasks, the polls that claim new jobs
  one at a time, the polling loop, and its shutdown.
-/
import Montage.Worker.Task

namespace Montage.Worker

open Montage.Jobs

/-! ## Polls -/

/-- Whether one job is claimed, or as many as there are slots. -/
inductive Purpose where
  | one
  | fill
  deriving DecidableEq, Repr

/-- How a poll ends. -/
inductive PollResult where
  | claimed (ids : List JobId)
  | raised (fault : Fault)
  | cancelled
  deriving DecidableEq, Repr

/-- What a poll waits for. -/
inductive Point where
  /-- The claim lock. -/
  | queued
  /-- Its next step, having been handed the lock. -/
  | granted
  /-- The oldest queued job; it holds the lock. -/
  | fetching
  /-- The claim of a job; it holds the lock. -/
  | claiming (job : Job)
  | done (result : PollResult)

structure Poll where
  number : Nat
  purpose : Purpose
  /-- The jobs claimed so far. -/
  claimed : List JobId := []
  point : Point := .queued

/-! ## Loop and shutdown -/

/-- Where the polling loop stands. -/
inductive Loop where
  | off
  /-- The loop was started and has not run yet. -/
  | starting
  /-- A poll fills the slots. -/
  | passing (poll : Nat)
  /-- The loop waits for a signal or for the end of the interval. -/
  | waiting
  /-- The wait is over, and the next pass is about to start. -/
  | resuming
  deriving DecidableEq, Repr

/-- Where the shutdown stands. -/
inductive Stop where
  | idle
  /-- It waits for the loop to end. -/
  | joiningLoop (cancelJobs : Bool)
  /-- It waits for the tasks that were in flight, by number. -/
  | joiningJobs (tasks : List Nat)
  deriving DecidableEq, Repr

/-! ## Workers -/

structure State where
  world : World := {}
  /-- The jobs in flight, in the order in which they were claimed, each with the number of
      its latest task. -/
  inFlight : List (JobId × Nat) := []
  /-- All tasks that were created. -/
  tasks : List Task := []
  /-- All polls that were begun. -/
  polls : List Poll := []
  /-- The poll that holds the claim lock. -/
  holder : Option Nat := none
  /-- The polls that wait for the lock, the first one first. -/
  queue : List Nat := []
  /-- Whether somebody has asked for a poll since the last pass began. -/
  wakeup : Bool := false
  loop : Loop := .off
  /-- Whether the loop is to end. -/
  loopCancelled : Bool := false
  stop : Stop := .idle

/-- What happens to a worker. -/
inductive Event where
  /-- Somebody asks for one job to be claimed. -/
  | poll
  /-- Somebody asks for the slots to be filled. -/
  | fill
  /-- A poll that was handed the lock goes on. -/
  | resume (poll : Nat)
  /-- The oldest queued job has been looked up. -/
  | fetched (poll : Nat) (reply : Reply)
  /-- The claim has been answered. -/
  | claimed (poll : Nat) (reply : Reply)
  | task (number : Nat) (event : TaskEvent)
  | trigger
  | start
  | loopStarts
  | loopWakes
  | loopTimesOut
  | loopResumes
  | stop (cancelJobs : Bool)
  /-- The loop is cancelled where it stands; `committed` says whether a claim it waits
      for has had its effect. -/
  | loopCancelled (committed : Bool)
  /-- The shutdown goes on after the end of the loop. -/
  | stopCollects
  | stopFinishes

namespace State

/-! ## Parts -/

def task? (number : Nat) (state : State) : Option Task :=
  state.tasks.find? fun task => task.number = number

/-- A task that is not over. -/
def openTask? (number : Nat) (state : State) : Option Task :=
  (state.task? number).filter fun task => !task.isOver

def setTask (task : Task) (state : State) : State :=
  { state with
    tasks := state.tasks.map fun other => if other.number = task.number then task else other }

/-- The jobs in flight. -/
def activeJobs (state : State) : List JobId :=
  state.inFlight.map Prod.fst

def poll? (number : Nat) (state : State) : Option Poll :=
  state.polls.find? fun poll => poll.number = number

def setPoll (poll : Poll) (state : State) : State :=
  { state with
    polls := state.polls.map fun other => if other.number = poll.number then poll else other }

def setPoint (number : Nat) (point : Point) (state : State) : State :=
  { state with
    polls := state.polls.map fun poll => if poll.number = number then { poll with point } else poll }

/-- Whether a slot is free. -/
def hasFreeSlot (config : Config) (state : State) : Bool :=
  (state.inFlight.length : Int) < config.limit

end State

end Montage.Worker
