/-
  Montage.Proofs.Worker.Cleanup

  What the work on a job leaves behind.  However it ends, its directory is gone and its job is
  not in flight any more, and somebody looks for another one; the directories of other jobs
  and their places among the jobs in flight are as they were.  Only a job whose files lie in
  the directory of another one may touch that, which a user id with two dots can bring about.
-/
import Montage.Proofs.Worker.Ending
import Montage.Proofs.Worker.Slots
import Montage.Proofs.Worker.Submitting

namespace Montage.Worker

open Montage.File Montage.Jobs Montage.Storage

/-! ## Directories of other jobs -/

/-- Whether a path keeps out of a directory: it leads neither through it nor into it. -/
structure IsOutside (directory : Place) (path : Path) : Prop where
  way : ∀ place ∈ Place.passed [] path.names, ¬ directory <+: place
  last : ¬ directory <+: Place.reach [] path.names

/-- Whether the paths of a job keep out of the directory of another job of the same worker. -/
structure KeepsOut (config : Config) (job : Job) (other : JobId) : Prop where
  root : IsOutside (scratchPlace config other) config.scratchRoot
  timeline : IsOutside (scratchPlace config other) (config.input.path job.inputKey)
  video : IsOutside (scratchPlace config other) (config.output.path job.outputKey)

variable {config : Config} {job : Job} {other : JobId} {place : Place}

theorem IsClear.isOutside {configs : List Config} {path : Path} (h : IsClear configs path)
    (hconfig : config ∈ configs) (other : JobId) : IsOutside (scratchPlace config other) path :=
  ⟨fun place hplace hinside => h.way place hplace ⟨config, hconfig, other, hinside⟩,
    fun hinside => h.last ⟨config, hconfig, other, hinside⟩⟩

theorem scratchPlace_eq (config : Config) (id : JobId) :
    scratchPlace config id = Place.reach [] config.scratchRoot.names ++ [id.text] := by
  rw [scratchPlace, scratchDirectory, Path.child_of_plain id.isPlainName_text,
    Place.reach_concat _ _ id.isPlainName_text.notUp]

/-- A root without two dots leads through the directory of no job. -/
theorem isOutside_scratchRoot (hdown : ".." ∉ config.scratchRoot.names) (other : JobId) :
    IsOutside (scratchPlace config other) config.scratchRoot := by
  have hroot : Place.reach [] config.scratchRoot.names = config.scratchRoot.names := by
    rw [Place.reach_of_no_up hdown, List.nil_append]
  have houtside : ∀ place, place <+: config.scratchRoot.names →
      ¬ scratchPlace config other <+: place := by
    intro place hplace hinside
    have hlength := (hinside.trans hplace).length_le
    rw [scratchPlace_eq, hroot, List.length_append, List.length_singleton] at hlength
    omega
  refine ⟨fun place hplace => houtside place ?_, houtside _ ?_⟩
  · have hprefix := Place.prefix_of_mem_passed hdown hplace
    rwa [List.nil_append] at hprefix
  · exact ⟨[], by rw [List.append_nil, hroot]⟩

theorem keepsOut_of_isClear {configs : List Config} (hconfig : config ∈ configs)
    (hdown : ".." ∉ config.scratchRoot.names)
    (htimeline : IsClear configs (config.input.path job.inputKey))
    (hvideo : IsClear configs (config.output.path job.outputKey)) (other : JobId) :
    KeepsOut config job other :=
  ⟨isOutside_scratchRoot hdown other, htimeline.isOutside hconfig other,
    hvideo.isOutside hconfig other⟩

/-- Different jobs have directories of which none lies in the other. -/
theorem eq_of_inside_scratchPlace {id : JobId} (hid : scratchPlace config id <+: place)
    (hother : scratchPlace config other <+: place) : id = other := by
  have hlength : (scratchPlace config id).length = (scratchPlace config other).length := by
    simp only [scratchPlace_eq, List.length_append, List.length_singleton]
  have hsame := (List.prefix_of_prefix_length_le hid hother (Nat.le_of_eq hlength)).eq_of_length
    hlength
  rw [scratchPlace_eq, scratchPlace_eq] at hsame
  exact JobId.text_injective (List.cons.inj (List.append_cancel_left hsame)).1

/-- A job that keeps out of the directory of another one changes nothing there. -/
theorem takesIn_eq (hne : other ≠ job.id) (h : KeepsOut config job other)
    (hplace : scratchPlace config other <+: place) : TakesIn config job Eq place := by
  refine ⟨fun hway => ?_, fun hvideo => ?_, fun hown => ?_⟩
  · rcases hway with hscratch | htimeline | hvideo
    · rw [scratchDirectory, Path.child_of_plain job.id.isPlainName_text, Place.passed_concat,
        List.mem_append, List.mem_singleton] at hscratch
      rcases hscratch with hroot | rfl
      · exact absurd hplace (h.root.way place hroot)
      · exact absurd hplace h.root.last
    · exact absurd hplace (h.timeline.way place htimeline)
    · exact absurd hplace (h.video.way place hvideo)
  · rcases hvideo with rfl | rfl
    · exact absurd hplace h.video.last
    -- the video is put into a directory, which is that of no job
    · rw [name_outputPath, Path.child_of_plain isPlainName_video,
        Place.reach_concat _ _ isPlainName_video.notUp, List.prefix_concat_iff] at hplace
      rcases hplace with hsame | hinside
      · rw [scratchPlace_eq] at hsame
        have hname : other.text = "export.mp4" :=
          (List.cons.inj (List.append_inj' hsame (by simp)).2).1
        have hhyphen := other.hyphen_mem_text
        rw [hname] at hhyphen
        exact absurd hhyphen (by decide)
      · exact absurd hinside h.video.last
  · exact absurd (eq_of_inside_scratchPlace hplace hown) hne

/-! ## Jobs in flight -/

/-- Whether a task is over on which a worker had begun to work. -/
def Task.HasEnded (task : Task) : Prop :=
  ∃ ending, task.phase = .ended ending ∧ ending ≠ .neverStarted

namespace State

variable {state : State} {next : Task}

/-- The jobs in flight but for one. -/
def othersInFlight (id : JobId) (state : State) : List (JobId × Nat) :=
  state.inFlight.filter fun entry => entry.1 ≠ id

/-- Whether no job is in flight on which the work is done. -/
def Tidy (state : State) : Prop :=
  ∀ task ∈ state.tasks, task.HasEnded → task.job.id ∉ state.activeJobs

/-- A task that moves takes at most its own job out of the jobs in flight. -/
theorem inFlight_updateTask (world : World) (next : Task) (state : State) :
    (state.updateTask world next).inFlight = state.inFlight ∨
      (state.updateTask world next).inFlight = state.othersInFlight next.job.id := by
  unfold updateTask
  dsimp only
  split
  · exact .inl rfl
  · exact .inr rfl
  · exact .inl rfl

theorem othersInFlight_updateTask (world : World) (next : Task) (state : State) :
    (state.updateTask world next).othersInFlight next.job.id =
      state.othersInFlight next.job.id := by
  rw [othersInFlight]
  rcases inFlight_updateTask world next state with hsame | hothers
  · rw [hsame]
    rfl
  · rw [hothers, othersInFlight, List.filter_filter]
    simp only [Bool.and_self]

theorem activeJobs_updateTask (world : World) (next : Task) (state : State) :
    (state.updateTask world next).activeJobs ⊆ state.activeJobs := by
  rw [activeJobs, activeJobs]
  rcases inFlight_updateTask world next state with hsame | hothers
  · rw [hsame]
    exact List.Subset.refl _
  · rw [hothers]
    exact (List.filter_sublist.map _).subset

theorem not_mem_othersInFlight (id : JobId) (state : State) :
    id ∉ (state.othersInFlight id).map Prod.fst := by
  intro hmem
  obtain ⟨entry, hentry, rfl⟩ := List.mem_map.mp hmem
  simpa using (List.mem_filter.mp hentry).2

theorem mem_withEntry {id other : JobId} {number : Nat} {entries : List (JobId × Nat)}
    (h : other ∈ (withEntry id number entries).map Prod.fst) :
    other = id ∨ other ∈ entries.map Prod.fst := by
  induction entries with
  | nil => exact .inl (List.mem_singleton.mp h)
  | cons entry rest ih =>
      obtain ⟨first, task⟩ := entry
      unfold withEntry at h
      split at h
      · rcases List.mem_cons.mp h with hid | hrest
        · exact .inl hid
        · exact .inr (List.mem_cons_of_mem first hrest)
      · rcases List.mem_cons.mp h with hfirst | hrest
        · exact .inr (hfirst ▸ List.mem_cons_self)
        · exact (ih hrest).imp_right (List.mem_cons_of_mem first)

/-! ## Events -/

theorem Tidy.sameJobs {after : State} (h : state.Tidy) (hsame : SameJobs state after) :
    after.Tidy := by
  intro task htask hended
  rw [hsame.tasks] at htask
  rw [activeJobs, hsame.inFlight]
  exact h task htask hended

theorem tidy_register (h : state.Tidy) {job : Job} (hnew : job.id ∉ state.taskJobs) :
    (state.register job).Tidy := by
  intro task htask hended hactive
  rcases List.mem_append.mp htask with hold | hlast
  · rcases mem_withEntry hactive with hid | hbefore
    · exact hnew (hid ▸ List.mem_map.mpr ⟨task, hold, rfl⟩)
    · exact h task hold hended hbefore
  · obtain ⟨ending, hphase, -⟩ := hended
    rw [List.mem_singleton.mp hlast] at hphase
    cases hphase

theorem tidy_updateTask (h : state.Tidy) (world : World) (next : Task) :
    (state.updateTask world next).Tidy := by
  intro task htask hended hactive
  rw [tasks_updateTask] at htask
  obtain ⟨old, hold, rfl⟩ := List.mem_map.mp htask
  split at hended
  next hnumber =>
    rw [if_pos hnumber] at hactive
    obtain ⟨ending, hphase, hending⟩ := hended
    rw [activeJobs, (updateTask_of_ended hphase hending world).1] at hactive
    exact not_mem_othersInFlight next.job.id state hactive
  next hnumber =>
    rw [if_neg hnumber] at hactive
    exact h old hold hended (activeJobs_updateTask world next state hactive)

theorem tidy_collectJobs (h : state.Tidy) (cancelJobs : Bool) :
    (state.collectJobs cancelJobs).Tidy := by
  obtain ⟨numbers, htasks, -⟩ := state.exists_tasks_collectJobs cancelJobs
  intro task htask hended
  rw [htasks] at htask
  obtain ⟨old, hold, rfl⟩ := List.mem_map.mp htask
  have hsame : (asked numbers old).job = old.job ∧ (asked numbers old).phase = old.phase := by
    unfold asked
    split <;> exact ⟨rfl, rfl⟩
  have hinFlight : (state.collectJobs cancelJobs).activeJobs = state.activeJobs := by
    cases cancelJobs <;> rfl
  obtain ⟨ending, hphase, hending⟩ := hended
  rw [hsame.1, hinFlight]
  exact h old hold ⟨ending, hsame.2 ▸ hphase, hending⟩

/-- Whatever happens to a worker, no job is in flight on which the work is done. -/
theorem tidy_step {event : Event} (hgenuine : Genuine event)
    (hnodup : (state.taskJobs ++ (state.won? event).toList).Nodup) (h : state.Tidy) :
    (state.step config event).Tidy := by
  have hchange := change_step config event state
  generalize state.step config event = after at hchange ⊢
  cases hchange with
  | idle hsame => exact h.sameJobs hsame
  | won job hclaim hwon hsame =>
      rw [hwon] at hnodup
      have hnew : job.id ∉ state.taskJobs := fun hmem =>
        (List.nodup_append.mp hnodup).2.2 _ hmem _ (List.mem_singleton.mpr rfl) rfl
      have hclaimed : (state.claimRow job.id).2.Tidy := h
      exact (tidy_register hclaimed hnew).sameJobs hsame
  | lost id hsame =>
      have hclaimed : (state.claimRow id).2.Tidy := h
      exact hclaimed.sameJobs hsame
  | @stubbed number value after job hsame => exact (hgenuine number value rfl).elim
  | task number event =>
      rcases stepTask_cases config number event state with hstay | ⟨task, requested, -, -, hstep⟩
      · rw [hstay]
        exact h
      · rw [hstep]
        exact tidy_updateTask h _ _
  | stopping cancelJobs => exact tidy_collectJobs h cancelJobs
  | stopped => exact fun _ _ _ => List.not_mem_nil

end State

/-! ## Steps of a task -/

namespace State

variable {state : State} {number : Nat} {task : Task} {event : TaskEvent}

/-- A step of the work on a job leaves the other jobs in flight. -/
theorem othersInFlight_stepTask (hfind : state.openTask? number = some task) :
    (state.stepTask config number event).othersInFlight task.job.id =
      state.othersInFlight task.job.id := by
  rcases stepTask_cases config number event state with hstay | ⟨start, requested, hstart, -, hstep⟩
  · rw [hstay]
  · rw [hfind] at hstart
    obtain rfl := Option.some.inj hstart
    have hlater := (Task.keeps_step config event state.world
      { task with cancelRequested := requested }).later
    have hothers := othersInFlight_updateTask
      (({ task with cancelRequested := requested } : Task).step config event state.world).1
      (({ task with cancelRequested := requested } : Task).step config event state.world).2 state
    rw [hlater.job] at hothers
    rw [hstep]
    exact hothers

/-- A step of the work on a job does at a place what the task of the job does there. -/
theorem keepsTo_stepTask {change : Option Entry → Option Entry → Prop}
    [IsPreorder (Option Entry) change] (hfind : state.openTask? number = some task)
    (hjob : TakesIn config task.job change place) (hfetched : event.IsFetched) :
    World.KeepsTo change place state.world (state.stepTask config number event).world := by
  rcases stepTask_cases config number event state with hstay | ⟨start, requested, hstart, -, hstep⟩
  · rw [hstay]
    exact .refl state.world
  · rw [hfind] at hstart
    obtain rfl := Option.some.inj hstart
    rw [hstep, world_updateTask]
    exact @Task.keepsTo_step place change _ config { task with cancelRequested := requested } hjob
      event hfetched state.world

end State

namespace Fleet

variable {fleet : Fleet} {actions : List Action} {index number : Nat} {member : Member}
  {start : State} {task : Task} {event : TaskEvent}

/-- Whether the work on a job has been cleared away. -/
structure IsCleared (index : Nat) (config : Config) (job : Job) (before after : Fleet) :
    Prop where
  gone : job.id ∉ (after.state index).activeJobs
  wakeup : (after.state index).wakeup = true
  /-- If the removal of the directory succeeds, there is no such directory. -/
  removed : ((Call.remove (scratchDirectory config job.id)).run.run before.world.files).1 = .ok () →
    ((Call.exists? (scratchDirectory config job.id)).run.run after.world.files).1 = .ok false
  /-- Everything else is where it was. -/
  others : ∀ place, ¬ scratchPlace config job.id <+: place →
    after.world.files.entryAt place = before.world.files.entryAt place

/-- What a step of the work on a job makes of the workers and of the files. -/
structure CleansUp (index number : Nat) (config : Config) (task : Task) (before after : Fleet) :
    Prop where
  /-- No job is in flight on which the work is done. -/
  tidy : ∀ worker, (after.state worker).Tidy
  /-- The other jobs in flight stay there. -/
  inFlight : ∀ worker, (after.state worker).othersInFlight task.job.id =
    (before.state worker).othersInFlight task.job.id
  /-- The directories of other jobs stay as they are. -/
  directories : ∀ other, other ≠ task.job.id → KeepsOut config task.job other →
    ∀ place, scratchPlace config other <+: place →
      after.world.files.entryAt place = before.world.files.entryAt place
  /-- Once the work that had begun is done, it is cleared away. -/
  cleared : task.isWaiting = false → (after.state index).openTask? number = none →
    IsCleared index config task.job before after

theorem nodup_taskJobs_state (h : fleet.taskJobs.Nodup) (index : Nat) :
    (fleet.state index).taskJobs.Nodup := by
  cases hmember : fleet.members[index]? with
  | none =>
      rw [state_of_none hmember]
      exact List.nodup_nil
  | some member =>
      rw [state_of_member hmember]
      exact nodup_taskJobs_member h (List.mem_of_getElem? hmember)

theorem tasks_state_of_isFresh (h : fleet.IsFresh) (index : Nat) :
    (fleet.state index).tasks = [] := by
  cases hmember : fleet.members[index]? with
  | none => exact congrArg State.tasks (state_of_none hmember)
  | some member =>
      rw [state_of_member hmember]
      exact h member (List.mem_of_getElem? hmember)

/-- In whatever order things happen, no job is in flight on which the work is done. -/
theorem tidy_run (hfresh : fleet.IsFresh) (hgenuine : ∀ action ∈ actions, action.IsGenuine)
    (index : Nat) : ((fleet.run actions).state index).Tidy := by
  -- from the right, so that each action finds a run of the fleet before it
  induction actions using List.reverseRecOn with
  | nil =>
      intro task htask
      have hnone : ((fleet.run []).state index).tasks = [] := tasks_state_of_isFresh hfresh index
      rw [hnone] at htask
      cases htask
  | append_singleton earlier action ih =>
      have hearlier : ∀ other ∈ earlier, other.IsGenuine := fun other hother =>
        hgenuine other (List.mem_append_left [action] hother)
      have hnodup : ((fleet.run (earlier ++ [action])).state index).taskJobs.Nodup :=
        nodup_taskJobs_state (nodup_taskJobs_run hfresh hgenuine) index
      have hnumbered := (course (numbered_of_isFresh hfresh) hearlier).numbered
      have hbefore := ih hearlier
      have hlast : fleet.run (earlier ++ [action]) = (fleet.run earlier).step action :=
        run_append earlier [action]
      rw [hlast] at hnodup ⊢
      rcases state_step index action (fleet.run earlier) with
        hsame | ⟨event, member, rfl, hmember⟩
      · rw [hsame]
        exact hbefore
      · have hevent : State.Genuine event := hgenuine (.worker index event) (by simp)
        rw [state_of_member hmember] at hbefore
        have hstart : ({ member.state with world := (fleet.run earlier).world } : State).Numbered :=
          hnumbered member (List.mem_of_getElem? hmember)
        rw [state_worker hmember, (State.turn_step hevent hstart member.config).jobs] at hnodup
        rw [state_worker hmember]
        exact State.tidy_step hevent hnodup hbefore

/-- In a fleet, too, a step of the work on a job does at a place what its task does there. -/
theorem keepsTo_task {change : Option Entry → Option Entry → Prop}
    [IsPreorder (Option Entry) change] (hmember : fleet.members[index]? = some member)
    (hfind : member.state.openTask? number = some task)
    (hjob : TakesIn member.config task.job change place) (hfetched : event.IsFetched) :
    World.KeepsTo change place fleet.world
      (fleet.step (.worker index (.task number event))).world := by
  have hstart : ({ member.state with world := fleet.world } : State).openTask? number =
      some task := hfind
  rw [world_worker hmember]
  exact State.keepsTo_stepTask hstart hjob hfetched

/-- A worker that has cleared the work on a job away leaves the rest of the files alone. -/
theorem isCleared_of_clears {before after : Fleet} {config : Config} {job : Job}
    (hclears : State.Clears config job start (after.state index))
    (hstart : start.world = before.world) (hworld : after.world = (after.state index).world) :
    IsCleared index config job before after := by
  have hremove : ((Call.remove (scratchDirectory config job.id)).run.run before.world.files).2 =
      after.world.files := by
    rw [hworld, ← hstart]
    exact hclears.files
  constructor
  case gone =>
    rw [State.activeJobs, hclears.inFlight]
    exact start.not_mem_othersInFlight job.id
  case wakeup => exact hclears.wakeup
  case removed =>
    intro hremoved
    refine Call.exists?_of_remove ?_ (Prod.ext hremoved hremove)
    rw [← scratchPlace, scratchPlace_eq]
    exact List.append_ne_nil_of_right_ne_nil _ (List.cons_ne_nil _ _)
  case others =>
    intro place hplace
    have hkeeps : Call.KeepsTo Eq place (Call.remove (scratchDirectory config job.id)) :=
      Call.keepsTo_remove fun hinside => absurd hinside hplace
    rw [← hremove]
    exact (hkeeps before.world.files).symm

/-- However the work on a job ends, it is cleared away: its job is in flight no longer, the
directory is gone unless it cannot be removed, and a poll is asked for.  No step of it takes
other jobs out of flight, or touches the directories that its files keep out of. -/
theorem run_cleansUp (hfresh : fleet.IsFresh) (hgenuine : ∀ action ∈ actions, action.IsGenuine)
    (hmember : (fleet.run actions).members[index]? = some member)
    (hfind : member.state.openTask? number = some task) (hfetched : event.IsFetched) :
    CleansUp index number member.config task (fleet.run actions)
      ((fleet.run actions).step (.worker index (.task number event))) := by
  let start : State := { member.state with world := (fleet.run actions).world }
  have hstart : start.openTask? number = some task := hfind
  have hstate : ((fleet.run actions).step (.worker index (.task number event))).state index =
      start.stepTask member.config number event := state_worker hmember (.task number event)
  constructor
  case tidy =>
    intro worker
    have hlast := @tidy_run fleet (actions ++ [.worker index (.task number event)]) hfresh
      (fun action haction => ?_) worker
    · rw [run_append] at hlast
      exact hlast
    · rcases List.mem_append.mp haction with hearlier | hstep
      · exact hgenuine action hearlier
      · obtain rfl := List.mem_singleton.mp hstep
        exact fun _ _ => nofun
  case inFlight =>
    intro worker
    rcases state_step worker (.worker index (.task number event)) (fleet.run actions) with
      hsame | ⟨moved, mover, haction, -⟩
    · rw [hsame]
    · obtain ⟨rfl, -⟩ := Action.worker.inj haction
      have hbefore : (fleet.run actions).state index = member.state := by
        rw [state, hmember]
        rfl
      rw [hstate, hbefore]
      exact State.othersInFlight_stepTask hstart
  case directories =>
    intro other hother hkeeps place hplace
    exact (keepsTo_task hmember hfind (takesIn_eq hother hkeeps hplace) hfetched).symm
  case cleared =>
    intro hbegun hover
    have hclears : State.Clears member.config task.job start
        (((fleet.run actions).step (.worker index (.task number event))).state index) := by
      rw [hstate] at hover ⊢
      exact State.clears_stepTask hstart hbegun hover
    refine isCleared_of_clears hclears rfl ?_
    rw [hstate]
    exact world_worker hmember (.task number event)

/-! ## Two jobs -/

/-- A worker with two slots and two queued jobs, of which a user has the second. -/
def sampleTeam (userId : String) : Fleet :=
  { sampleQueue with
    world := { store := ⟨[sampleRow, { sampleRow with id := ⟨8⟩, userId, createdAt := 1 }]⟩ }
    members := [⟨{ sampleConfig with limit := 2 }, {}⟩] }

/-- The worker begins with both jobs, and fails with the first one. -/
def sampleFailing : List Action :=
  [.worker 0 .poll, .worker 0 (.fetched 0 .genuine), .worker 0 (.claimed 0 .genuine),
   .worker 0 .poll, .worker 0 (.fetched 1 .genuine), .worker 0 (.claimed 1 .genuine),
   .worker 0 (.task 0 .begin), .worker 0 (.task 1 .begin),
   .worker 0 (.task 0 (.read (.raises (.unreachable "connection lost") false)))]

theorem isFresh_sampleTeam (userId : String) : (sampleTeam userId).IsFresh := by
  intro member hmember
  obtain rfl := List.mem_singleton.mp hmember
  rfl

/-- The failure is stored, and with that the work on the first job is over. -/
def sampleFailed : TaskEvent :=
  .failureWritten .genuine

/-- The team when it has failed with the first job. -/
def sampleAfter (userId : String) : Fleet :=
  ((sampleTeam userId).run sampleFailing).step (.worker 0 (.task 0 sampleFailed))

theorem keepsOut_sampleTeam {job : Job} (hid : job.id = ⟨7⟩) (huser : job.userId = "u")
    (other : JobId) : KeepsOut { sampleConfig with limit := 2 } job other := by
  have hclear : ∀ bucket ∈ [sampleConfig.input, sampleConfig.output],
      ∀ {file : String}, Path.IsPlainName file →
        (Path.ofText (jobKey "u" ⟨7⟩ file)).root = .relative →
          IsClear [{ sampleConfig with limit := 2 }] (bucket.path (jobKey "u" ⟨7⟩ file)) := by
    intro bucket hbucket file hfile hroot
    refine isClear_of_inside hfile hroot (by decide +kernel) ?_ fun config hconfig => ?_
    · revert bucket
      decide
    · obtain rfl := List.mem_singleton.mp hconfig
      revert bucket
      decide
  refine keepsOut_of_isClear (List.mem_singleton.mpr rfl) (by decide) ?_ ?_ other
  · rw [inputKey_eq, hid, huser]
    exact hclear _ (by simp) isPlainName_timeline (by decide +kernel)
  · rw [outputKey_eq, hid, huser]
    exact hclear _ (by simp) isPlainName_video (by decide +kernel)

theorem run_cleansUp_sampleFailing :
    ∃ member task, ((sampleTeam "u").run sampleFailing).members[0]? = some member ∧
      member.state.openTask? 0 = some task ∧ task.isWaiting = false ∧
      member.state.activeJobs = [⟨7⟩, ⟨8⟩] ∧ ((sampleAfter "u").state 0).openTask? 0 = none ∧
      KeepsOut member.config task.job ⟨8⟩ ∧
      CleansUp 0 0 member.config task ((sampleTeam "u").run sampleFailing) (sampleAfter "u") := by
  have hgenuine : ∀ action ∈ sampleFailing, action.IsGenuine := by
    simp [sampleFailing, Action.IsGenuine, State.Genuine]
  exact ⟨_, _, rfl, rfl, by decide +kernel, by decide +kernel, by decide +kernel,
    keepsOut_sampleTeam rfl rfl ⟨8⟩, run_cleansUp (isFresh_sampleTeam "u") hgenuine rfl rfl trivial⟩

/-- The directory in which the worker has worked on the first job, from the bucket on. -/
def sampleTrespasser : String := "../scratch/00000000-0000-4000-8000-000000000007"

/-- The second job is that of this user, and its timeline is looked for. -/
def sampleSearch : Fleet :=
  (sampleAfter sampleTrespasser).step (.worker 0 (.task 1 (.read .genuine)))

/-- There is none, so the worker fails with that job as well. -/
def sampleEnd : Fleet :=
  sampleSearch.step (.worker 0 (.task 1 sampleFailed))

/-- The job of this user brings back the directory of the first one, and leaves it behind. -/
theorem directoryBack_sampleEnd :
    (sampleEnd.state 0).activeJobs = [] ∧
      (sampleAfter sampleTrespasser).world.files.entryAt (scratchPlace sampleConfig ⟨7⟩) = none ∧
      sampleEnd.world.files.entryAt (scratchPlace sampleConfig ⟨7⟩) = some .directory := by
  have hruns : (sampleEnd.state 0).activeJobs = [] ∧
      (sampleAfter sampleTrespasser).world.files.entryAt (scratchPlace sampleConfig ⟨7⟩) = none ∧
      sampleSearch.world.files.entryAt (scratchPlace sampleConfig ⟨7⟩) = some .directory ∧
      sampleSearch.members[0]?.map (fun member =>
        (member.config.scratchRoot.names, (member.state.openTask? 1).map (·.job.id))) =
          some (["scratch"], some ⟨8⟩) := by
    decide +kernel
  obtain ⟨hidle, hnone, hback, hlook⟩ := hruns
  refine ⟨hidle, hnone, ?_⟩
  -- the end of the second job leaves the directory alone
  obtain ⟨member, hmember, hpair⟩ := Option.map_eq_some_iff.mp hlook
  obtain ⟨hroot, hjob⟩ := Prod.mk.inj hpair
  obtain ⟨task, hfind, hid⟩ := Option.map_eq_some_iff.mp hjob
  have houtside : ¬ scratchPlace member.config task.job.id <+: scratchPlace sampleConfig ⟨7⟩ := by
    rw [scratchPlace_eq, hroot, hid]
    decide +kernel
  have hstays : World.KeepsTo Entry.directory.Stays (scratchPlace sampleConfig ⟨7⟩)
      sampleSearch.world sampleEnd.world :=
    keepsTo_task hmember hfind (takesIn_stays houtside (.inl rfl)) trivial
  exact hstays hback

end Fleet

end Montage.Worker
