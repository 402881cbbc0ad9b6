/-
  Montage.Proofs.Worker.Fleet

  Several workers and submissions that share one table.  They take turns in any order,
  one call at a time, and others may write to the table in between; still, every job is
  claimed once, and so it is worked on once.
-/
import Mathlib.Data.List.Nodup
import Mathlib.Data.List.Perm.Subperm
import Montage.Proofs.Worker.Turn

namespace Montage.Worker

open Montage.Api Montage.Jobs Montage.Storage

/-! ## The fleet -/

/-- A worker with its set-up. -/
structure Member where
  config : Config
  state : State := {}

/-- An event of a worker in a world that others have changed since its last one. -/
def Member.step (event : Event) (world : World) (member : Member) : World × Member :=
  let state := { member.state with world }.step member.config event
  (state.world, { member with state })

/-- Workers and submissions that share one world. -/
structure Fleet where
  input : Bucket
  world : World := {}
  members : List Member := []
  submissions : List Submission := []

/-- A change of the table that anybody may ask for. -/
inductive Statement where
  | claim (id : JobId)
  | setProgress (id : JobId) (progress : Json)
  | markCompleted (id : JobId) (url : Json)
  | markFailed (id : JobId) (message : Json)

/-- Carries out a statement; one that is refused changes nothing. -/
def Statement.run (statement : Statement) (world : World) : World :=
  match statement with
  | .claim id => { world with store := (world.store.claim id).2 }
  | .setProgress id progress => (world.change (Store.setProgress id progress)).2
  | .markCompleted id url => (world.change (Store.markCompleted id url)).2
  | .markFailed id message => (world.change (Store.markFailed id message)).2

/-- What happens next. -/
inductive Action where
  | worker (index : Nat) (event : Event)
  /-- A timeline is submitted for a job that is to have this id. -/
  | submit (id : JobId) (request : ExportRequest)
  | submission (index : Nat) (event : SubmissionEvent)
  | statement (statement : Statement)

namespace Fleet

/-- One action; one of nobody changes nothing. -/
def step (action : Action) (fleet : Fleet) : Fleet :=
  match action with
  | .worker index event =>
    match fleet.members[index]? with
    | none => fleet
    | some member =>
      let (world, member) := member.step event fleet.world
      { fleet with world, members := fleet.members.set index member }
  | .submit id request =>
    match Submission.start id request with
    | .error _ => fleet
    | .ok submission => { fleet with submissions := fleet.submissions ++ [submission] }
  | .submission index event =>
    match fleet.submissions[index]? with
    | none => fleet
    | some submission =>
      let (world, submission) := submission.step fleet.input event fleet.world
      { fleet with world, submissions := fleet.submissions.set index submission }
  | .statement statement => { fleet with world := statement.run fleet.world }

/-- The job whose claim an action makes and wins. -/
def won? (action : Action) (fleet : Fleet) : Option JobId :=
  match action with
  | .worker index event =>
    fleet.members[index]?.bind fun member =>
      State.won? event { member.state with world := fleet.world }
  | .statement (.claim id) => if (fleet.world.store.claim id).1 then some id else none
  | _ => none

/-- The job that a worker begins to work on. -/
def begun? (action : Action) (fleet : Fleet) : Option JobId :=
  match action with
  | .worker index event =>
    fleet.members[index]?.bind fun member =>
      State.begun? event { member.state with world := fleet.world }
  | _ => none

/-! ## Runs -/

/-- One action after the other. -/
def run (actions : List Action) (fleet : Fleet) : Fleet :=
  actions.foldl (fun fleet action => fleet.step action) fleet

/-- What actions bring about one after the other. -/
def history (effect? : Action → Fleet → Option JobId) : List Action → Fleet → List JobId
  | [], _ => []
  | action :: rest, fleet =>
    (effect? action fleet).toList ++ history effect? rest (fleet.step action)

/-- The jobs whose claims succeeded, once for each claim. -/
def wins : List Action → Fleet → List JobId :=
  history won?

/-- The jobs that workers began to work on, once for each time. -/
def beginnings : List Action → Fleet → List JobId :=
  history begun?

/-- The jobs of all tasks of all workers. -/
def taskJobs (fleet : Fleet) : List JobId :=
  fleet.members.flatMap fun member => member.state.taskJobs

/-- The jobs of the tasks that wait for their first step. -/
def waiting (fleet : Fleet) : List JobId :=
  fleet.members.flatMap fun member => waitingJobs member.state.tasks

/-- Whether no worker has worked on anything yet. -/
def IsFresh (fleet : Fleet) : Prop :=
  ∀ member ∈ fleet.members, member.state.tasks = []

def Numbered (fleet : Fleet) : Prop :=
  ∀ member ∈ fleet.members, member.state.Numbered

/-- What is known of a worker; one that is not there has done nothing. -/
def state (index : Nat) (fleet : Fleet) : State :=
  (fleet.members[index]?.map Member.state).getD {}

end Fleet

/-- Whether claims are answered by the table: an answer is what the table says, or the call
    fails. -/
def Action.IsGenuine : Action → Prop
  | .worker _ event => State.Genuine event
  | _ => True

/-! ## The table -/

theorem Statement.advances_run (statement : Statement) (world : World) :
    Store.Advances world.store (statement.run world).store := by
  cases statement with
  | claim id => exact Store.advances_claim id world.store
  | setProgress id progress =>
      exact world.advances_change fun _ _ h => Store.advances_setProgress h
  | markCompleted id url => exact world.advances_change fun _ _ h => Store.advances_markCompleted h
  | markFailed id message => exact world.advances_change fun _ _ h => Store.advances_markFailed h

namespace Submission

/-- A row is inserted, or the table stays as it is. -/
theorem store_insertRow (id : JobId) (createdAt : Int) (draft : Draft) (field : String)
    (reply : Reply) (world : World) :
    (insertRow id createdAt draft field reply world).1.store = world.store ∨
      ∃ job, world.store.insert id createdAt draft =
        .ok (job, (insertRow id createdAt draft field reply world).1.store) := by
  unfold insertRow
  split
  · split
    next hok => exact .inr ⟨_, hok⟩
    next => exact .inl rfl
  · exact .inl rfl
  · split
    next hok => exact .inr ⟨_, hok⟩
    next => exact .inl rfl

theorem store_writeDocument (input : Bucket) (reply : Reply) (world : World)
    (submission : Submission) :
    (submission.writeDocument input reply world).1.store = world.store := by
  unfold writeDocument
  split
  · rfl
  · dsimp only
    split
    · split
      next hwritten => exact World.store_of_onFiles hwritten
      next hwritten => exact World.store_of_onFiles hwritten
    · rfl
    · split
      · rw [World.store_onFiles]
      · rfl

/-- A submission inserts its row, or leaves the table as it is. -/
theorem store_step (input : Bucket) (event : SubmissionEvent) (world : World)
    (submission : Submission) :
    (submission.step input event world).1.store = world.store ∨
      ∃ createdAt job, world.store.insert submission.id createdAt submission.draft =
        .ok (job, (submission.step input event world).1.store) := by
  unfold step
  split
  · exact .inl (store_writeDocument input _ world submission)
  · exact (store_insertRow _ _ _ _ _ world).imp_right fun hinsert => ⟨_, hinsert⟩
  · exact .inl rfl

theorem advances_step (input : Bucket) (event : SubmissionEvent) (world : World)
    (submission : Submission) :
    Store.Advances world.store (submission.step input event world).1.store := by
  rcases store_step input event world submission with hsame | ⟨createdAt, job, hinsert⟩
  · rw [hsame]
    exact Store.Advances.refl world.store
  · exact Store.advances_insert hinsert

end Submission

namespace Fleet

/-! ## One action -/

/-- What an action comes to that wins and begins these jobs. -/
structure Turn (before after : Fleet) (won begun : Option JobId) : Prop where
  numbered : after.Numbered
  advances : Store.Advances before.world.store after.world.store
  taken : ∀ id, won = some id → ¬ before.world.store.HasLeft id ∧ after.world.store.HasLeft id
  jobs : ∀ id, after.taskJobs.count id ≤ before.taskJobs.count id + won.toList.count id
  waiting : ∀ id, begun.toList.count id + after.waiting.count id ≤
    before.waiting.count id + won.toList.count id

/-- An action that leaves the workers alone. -/
theorem Turn.of_members {before after : Fleet} {won : Option JobId} (hnumbered : before.Numbered)
    (hmembers : after.members = before.members)
    (hadvances : Store.Advances before.world.store after.world.store)
    (htaken : ∀ id, won = some id →
      ¬ before.world.store.HasLeft id ∧ after.world.store.HasLeft id) :
    Turn before after won none := by
  refine ⟨?_, hadvances, htaken, fun id => ?_, fun id => ?_⟩
  · rw [Numbered, hmembers]
    exact hnumbered
  · rw [taskJobs, taskJobs, hmembers]
    exact Nat.le_add_right _ _
  · rw [Fleet.waiting, Fleet.waiting, hmembers]
    simp

/-- A worker that moves takes its own place among the workers. -/
theorem exists_step_worker {fleet : Fleet} {index : Nat} {member : Member}
    (hmember : fleet.members[index]? = some member) (event : Event) :
    ∃ first last, fleet.members = first ++ member :: last ∧
      fleet.step (.worker index event) =
        { fleet with
          world := (member.step event fleet.world).1
          members := first ++ (member.step event fleet.world).2 :: last } := by
  obtain ⟨hlt, hget⟩ := List.getElem?_eq_some_iff.mp hmember
  obtain ⟨first, last, hsplit, -, hset⟩ :=
    @List.exists_of_set _ index (member.step event fleet.world).2 fleet.members hlt
  refine ⟨first, last, hget ▸ hsplit, ?_⟩
  rw [← hset]
  simp only [step, hmember]

theorem state_of_member {fleet : Fleet} {index : Nat} {member : Member}
    (hmember : fleet.members[index]? = some member) : fleet.state index = member.state := by
  rw [state, hmember]
  rfl

theorem state_of_none {fleet : Fleet} {index : Nat} (hnone : fleet.members[index]? = none) :
    fleet.state index = {} := by
  rw [state, hnone]
  rfl

/-- A worker takes a step of its own. -/
theorem state_worker {fleet : Fleet} {index : Nat} {member : Member}
    (hmember : fleet.members[index]? = some member)
    (event : Event) : (fleet.step (.worker index event)).state index =
      ({ member.state with world := fleet.world } : State).step member.config event := by
  obtain ⟨hlt, -⟩ := List.getElem?_eq_some_iff.mp hmember
  simp only [step, hmember, state, List.getElem?_set_self hlt, Option.map_some, Option.getD_some]
  rfl

theorem world_worker {fleet : Fleet} {index : Nat} {member : Member}
    (hmember : fleet.members[index]? = some member) (event : Event) :
    (fleet.step (.worker index event)).world =
      (({ member.state with world := fleet.world } : State).step member.config event).world := by
  simp only [step, hmember]
  rfl

/-- A worker takes a step of its own, or stays as it is. -/
theorem state_step (index : Nat) (action : Action) (fleet : Fleet) :
    (fleet.step action).state index = fleet.state index ∨
      ∃ event member, action = .worker index event ∧ fleet.members[index]? = some member := by
  cases action with
  | worker other event =>
      cases hmoved : fleet.members[other]? with
      | none =>
          refine .inl ?_
          simp only [step, hmoved]
      | some mover =>
          by_cases hother : other = index
          · subst hother
            exact .inr ⟨event, mover, rfl, hmoved⟩
          · refine .inl ?_
            simp only [step, hmoved, state, List.getElem?_set_ne hother]
  | submit id request =>
      unfold step
      dsimp only
      split
      · exact .inl rfl
      · exact .inl rfl
  | submission other event =>
      unfold step
      dsimp only
      split
      · exact .inl rfl
      · exact .inl rfl
  | statement statement => exact .inl rfl

theorem turn_worker {fleet : Fleet} (hnumbered : fleet.Numbered) {index : Nat} {member : Member}
    (hmember : fleet.members[index]? = some member) {event : Event}
    (hgenuine : State.Genuine event) :
    Turn fleet (fleet.step (.worker index event)) (fleet.won? (.worker index event))
      (fleet.begun? (.worker index event)) := by
  let start : State := { member.state with world := fleet.world }
  have hstart : start.Numbered := hnumbered member (List.mem_of_getElem? hmember)
  have hturn := State.turn_step hgenuine hstart member.config
  have hwon : fleet.won? (.worker index event) = start.won? event := by
    simp only [won?, hmember, Option.bind_some, start]
  have hbegun : fleet.begun? (.worker index event) = start.begun? event := by
    simp only [begun?, hmember, Option.bind_some, start]
  -- the other workers stay as they are
  obtain ⟨first, last, hbefore, hstep⟩ := exists_step_worker hmember event
  rw [hstep, hwon, hbegun]
  refine ⟨?_, hturn.advances, fun id hid => ?_, fun id => ?_, fun id => ?_⟩
  · intro other hother
    rcases List.mem_append.mp hother with hfirst | hrest
    · exact hnumbered other (hbefore ▸ List.mem_append_left _ hfirst)
    · rcases List.mem_cons.mp hrest with rfl | hlast
      · exact hturn.numbered
      · exact hnumbered other (hbefore ▸ List.mem_append_right _ (List.mem_cons_of_mem _ hlast))
  · exact State.hasLeft_of_won hid member.config
  · have hjobs : (start.step member.config event).taskJobs.count id =
        member.state.taskJobs.count id + (start.won? event).toList.count id := by
      rw [hturn.jobs, List.count_append]
      rfl
    simp only [taskJobs, hbefore, List.flatMap_append, List.flatMap_cons, List.count_append]
    show _ + ((start.step member.config event).taskJobs.count id + _) ≤ _
    omega
  · have hwaiting := hturn.waiting id
    simp only [Fleet.waiting, hbefore, List.flatMap_append, List.flatMap_cons, List.count_append]
    show _ + (_ + ((waitingJobs (start.step member.config event).tasks).count id + _)) ≤ _
    have hsame : (waitingJobs start.tasks).count id =
        (waitingJobs member.state.tasks).count id := rfl
    omega

theorem turn_step {fleet : Fleet} {action : Action} (hgenuine : action.IsGenuine)
    (hnumbered : fleet.Numbered) :
    Turn fleet (fleet.step action) (fleet.won? action) (fleet.begun? action) := by
  have hstay : Turn fleet fleet none none :=
    .of_members hnumbered rfl (Store.Advances.refl _) nofun
  cases action with
  | worker index event =>
      cases hmember : fleet.members[index]? with
      | none => simpa [step, won?, begun?, hmember] using hstay
      | some member => exact turn_worker hnumbered hmember hgenuine
  | submit id request =>
      unfold step
      dsimp only
      split
      · exact hstay
      · exact .of_members hnumbered rfl (Store.Advances.refl _) nofun
  | submission index event =>
      unfold step
      dsimp only
      split
      · exact hstay
      · exact .of_members hnumbered rfl (Submission.advances_step _ _ _ _) nofun
  | statement statement =>
      refine .of_members hnumbered rfl (statement.advances_run fleet.world) fun id hwon => ?_
      cases statement with
      | claim other =>
          have hclaim : (fleet.world.store.claim other).1 = true ∧ other = id := by
            simpa [won?] using hwon
          obtain ⟨hclaim, rfl⟩ := hclaim
          exact Store.hasLeft_of_claim hclaim
      | _ => cases hwon

/-! ## Runs of actions -/

variable {fleet : Fleet} {actions : List Action}

theorem numbered_of_isFresh (h : fleet.IsFresh) : fleet.Numbered := by
  intro member hmember
  rw [State.Numbered, h member hmember]
  rfl

theorem run_append (earlier later : List Action) :
    fleet.run (earlier ++ later) = (fleet.run earlier).run later := by
  rw [run, run, run, List.foldl_append]

/-- What a run comes to. -/
structure Course (fleet : Fleet) (actions : List Action) : Prop where
  numbered : (fleet.run actions).Numbered
  advances : Store.Advances fleet.world.store (fleet.run actions).world.store
  /-- Only jobs that have not left the queue are won, and each of them once. -/
  nodup : (wins actions fleet).Nodup
  queued : ∀ id ∈ wins actions fleet, ¬ fleet.world.store.HasLeft id
  jobs : ∀ id, (fleet.run actions).taskJobs.count id ≤
    fleet.taskJobs.count id + (wins actions fleet).count id
  waiting : ∀ id, (beginnings actions fleet).count id + (fleet.run actions).waiting.count id ≤
    fleet.waiting.count id + (wins actions fleet).count id

theorem course (hnumbered : fleet.Numbered) (hgenuine : ∀ action ∈ actions, action.IsGenuine) :
    Course fleet actions := by
  induction actions generalizing fleet with
  | nil =>
      refine ⟨hnumbered, Store.Advances.refl _, List.nodup_nil, nofun, fun id => ?_, fun id => ?_⟩
      · exact Nat.le_add_right _ _
      · simp [beginnings, history, run]
  | cons action rest ih =>
      have hturn := turn_step (hgenuine action List.mem_cons_self) hnumbered
      have hrest := ih hturn.numbered fun other hother =>
        hgenuine other (List.mem_cons_of_mem action hother)
      have hwins : wins (action :: rest) fleet =
          (fleet.won? action).toList ++ wins rest (fleet.step action) := rfl
      have hbeginnings : beginnings (action :: rest) fleet =
          (fleet.begun? action).toList ++ beginnings rest (fleet.step action) := rfl
      refine ⟨hrest.numbered, hturn.advances.trans hrest.advances, ?_, ?_, fun id => ?_,
        fun id => ?_⟩
      · rw [hwins]
        cases hwon : fleet.won? action with
        | none => exact hrest.nodup
        | some id =>
            -- a job that is won now has left the queue, so it is not won again
            have hleft := (hturn.taken id hwon).2
            exact List.nodup_cons.mpr ⟨fun hagain => hrest.queued id hagain hleft, hrest.nodup⟩
      · intro id hid
        rw [hwins] at hid
        rcases List.mem_append.mp hid with hnow | hlater
        · exact (hturn.taken id (Option.mem_toList.mp hnow)).1
        -- a job that had left the queue before could not be in it later
        · exact fun hleft => hrest.queued id hlater (hturn.advances id hleft)
      · have hnow := hturn.jobs id
        have hlater := hrest.jobs id
        rw [hwins, List.count_append]
        show (run rest (fleet.step action)).taskJobs.count id ≤ _
        omega
      · have hnow := hturn.waiting id
        have hlater := hrest.waiting id
        rw [hwins, hbeginnings, List.count_append, List.count_append]
        show _ + (run rest (fleet.step action)).waiting.count id ≤ _
        omega

/-! ## Every job once -/

/-- In a run, every job is claimed at most once and worked on at most once. -/
structure ClaimsOnce (fleet : Fleet) (actions : List Action) : Prop where
  /-- No two claims of one job succeed. -/
  wins : (wins actions fleet).Nodup
  /-- A job that has left the queue stays out of it. -/
  left : ∀ earlier later, actions = earlier ++ later → ∀ id,
    (fleet.run earlier).world.store.HasLeft id → (fleet.run actions).world.store.HasLeft id
  /-- No two tasks of any workers have the same job, and every task comes from a claim of
      its job that succeeded. -/
  tasks : (fleet.run actions).taskJobs.Nodup ∧
    (fleet.run actions).taskJobs ⊆ Fleet.wins actions fleet
  /-- No job is begun twice, and none without a claim that succeeded. -/
  beginnings : (beginnings actions fleet).Nodup ∧
    Fleet.beginnings actions fleet ⊆ Fleet.wins actions fleet

theorem count_eq_zero_of_isFresh (h : fleet.IsFresh) (id : JobId) :
    fleet.taskJobs.count id = 0 ∧ fleet.waiting.count id = 0 := by
  constructor
  · refine List.count_eq_zero.mpr fun hmem => ?_
    obtain ⟨member, hmember, hid⟩ := List.mem_flatMap.mp hmem
    simp [State.taskJobs, h member hmember] at hid
  · refine List.count_eq_zero.mpr fun hmem => ?_
    obtain ⟨member, hmember, hid⟩ := List.mem_flatMap.mp hmem
    simp [waitingJobs, h member hmember] at hid

theorem nodup_of_count_le {ids won : List JobId} (hwon : won.Nodup)
    (h : ∀ id, ids.count id ≤ won.count id) : ids.Nodup ∧ ids ⊆ won := by
  refine ⟨List.nodup_iff_count_le_one.mpr fun id => ?_, (List.subperm_iff_count.mpr h).subset⟩
  exact Nat.le_trans (h id) (List.nodup_iff_count_le_one.mp hwon id)

/-- Whatever workers, submissions and others do, in any order, every job is claimed at
    most once and worked on at most once. -/
theorem run_claimsOnce (hfresh : fleet.IsFresh)
    (hgenuine : ∀ action ∈ actions, action.IsGenuine) : ClaimsOnce fleet actions := by
  have hcourse := course (numbered_of_isFresh hfresh) hgenuine
  refine ⟨hcourse.nodup, ?_, ?_, ?_⟩
  · rintro earlier later rfl id hleft
    have hearlier := course (numbered_of_isFresh hfresh) fun action haction =>
      hgenuine action (List.mem_append_left later haction)
    have hlater := course hearlier.numbered fun action haction =>
      hgenuine action (List.mem_append_right earlier haction)
    rw [run_append]
    exact hlater.advances id hleft
  -- a fresh fleet has no tasks, so all of them come from wins
  · refine nodup_of_count_le hcourse.nodup fun id => ?_
    have hcount := hcourse.jobs id
    have hnone := (count_eq_zero_of_isFresh hfresh id).1
    omega
  · refine nodup_of_count_le hcourse.nodup fun id => ?_
    have hcount := hcourse.waiting id
    have hnone := (count_eq_zero_of_isFresh hfresh id).2
    omega

/-! ## A race -/

def sampleConfig : Config :=
  { limit := 1, pollInterval := .zero, scratchRoot := ⟨.absolute, ["scratch"]⟩
    program := "ffmpeg", timeout := .zero, options := {}
    input := ⟨⟨.absolute, ["in"]⟩⟩, output := ⟨⟨.absolute, ["out"]⟩⟩ }

def sampleRow : Job :=
  { id := ⟨7⟩, userId := "u", projectId := "p", width := .int 640, height := .int 360
    fps := .int 30, duration := .zero, createdAt := 0 }

/-- Two workers and one queued job. -/
def sampleFleet : Fleet :=
  { input := sampleConfig.input
    world := { store := ⟨[sampleRow]⟩ }
    members := [⟨sampleConfig, {}⟩, ⟨sampleConfig, {}⟩] }

/-- Both workers fetch the same row and claim it; the winner begins. -/
def sampleRace : List Action :=
  [.worker 0 .poll, .worker 1 .poll, .worker 0 (.fetched 0 .genuine),
   .worker 1 (.fetched 0 .genuine), .worker 1 (.claimed 0 .genuine),
   .worker 0 (.claimed 0 .genuine), .worker 1 (.task 0 .begin),
   .worker 0 (.task 0 .begin), .statement (.claim ⟨7⟩), .statement (.markFailed ⟨7⟩ (.str "X: y"))]

theorem run_claimsOnce_sampleRace :
    wins sampleRace sampleFleet = [⟨7⟩] ∧ beginnings sampleRace sampleFleet = [⟨7⟩] ∧
      ClaimsOnce sampleFleet sampleRace := by
  have hfresh : sampleFleet.IsFresh := by
    intro member hmember
    simp only [sampleFleet, List.mem_cons, List.not_mem_nil, or_false, or_self] at hmember
    rw [hmember]
  have hgenuine : ∀ action ∈ sampleRace, action.IsGenuine := by
    simp [sampleRace, Action.IsGenuine, State.Genuine]
  exact ⟨by decide +kernel, by decide +kernel, run_claimsOnce hfresh hgenuine⟩

end Fleet

end Montage.Worker
