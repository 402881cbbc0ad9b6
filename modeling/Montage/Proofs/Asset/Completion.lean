/-
  Montage.Proofs.Asset.Completion

  Fetching is all or nothing, whatever the order in which the assets end.  Whoever waits for
  them is woken by the first failure, or once nothing is running any more, and calls off what
  is still running then.  Assets may end between the failure and the calling off, and even
  while they are being called off; only what had ended when the wait was over decides.

  An asset that ends by itself delivers the path of its file or an error.  What a fetching
  comes to is said in terms of these deliveries, and for transfers in virtual time they are
  what a plain scan of the transfers gives.
-/
import Mathlib.Data.List.Nodup
import Mathlib.Logic.Relation
import Montage.Proofs.Asset.FileName
import Montage.Proofs.Asset.Gathering

namespace Montage.Asset

open Montage.File Montage.Timeline

/-! ## Courses -/

/-- What came of an asset that was not called off: the path of its file, or the error that it
    failed with. -/
structure Delivery where
  mediaId : String
  result : Except Fault String

/-- How the fetching of several assets stands: its assets, how these stood when the wait for
    them was over, once it is over, and what they have delivered so far. -/
structure Course where
  tasks : Gathering
  noticed : Option Gathering
  deliveries : List Delivery

namespace Course

def start (items : List Wanted) : Course :=
  ⟨.start items, none, []⟩

/-- One thing that can happen in the course of a fetching. -/
inductive Step : Course → Course → Prop
  /-- An asset ends, with any result; it may do so even while the rest is called off. -/
  | ended {tasks : Gathering} {noticed : Option Gathering} {deliveries : List Delivery}
      (id : String) (result : Except Fault String) (h : tasks.awaits id) :
      Step ⟨tasks, noticed, deliveries⟩
        ⟨tasks.settle id (.ofResult result), noticed, deliveries ++ [⟨id, result⟩]⟩
  /-- The wait is over if an asset has failed, or if all have ended. -/
  | woken {tasks : Gathering} {deliveries : List Delivery}
      (h : tasks.failure? ≠ none ∨ tasks.isRunning = false) :
      Step ⟨tasks, none, deliveries⟩ ⟨tasks, some tasks, deliveries⟩
  /-- After the wait, an asset that is still running is called off. -/
  | calledOff {tasks done : Gathering} {deliveries : List Delivery} (id : String)
      (h : tasks.awaits id) :
      Step ⟨tasks, some done, deliveries⟩ ⟨tasks.settle id .cancelled, some done, deliveries⟩

/-- The courses that the fetching of `items` may have taken so far. -/
def Reached (items : List Wanted) (course : Course) : Prop :=
  Relation.ReflTransGen Step (start items) course

/-- What a fetching comes to once the wait is over and all its assets have ended: the error
    of one of those that had failed by then, or else the places of all that had come by
    then, in some order. -/
inductive Returns (course : Course) : Except Fault Locators → Prop
  | raised {done : Gathering} {id : String} {fault : Fault} (hnoticed : course.noticed = some done)
      (hended : course.tasks.isRunning = false) (hmem : (id, .failed fault) ∈ done.tasks) :
      Returns course (.error fault)
  | returned {done : Gathering} {locators : Locators} (hnoticed : course.noticed = some done)
      (hended : course.tasks.isRunning = false) (hnone : done.failure? = none)
      (hperm : locators.Perm done.places) : Returns course (.ok locators)

end Course

/-! ## Every course comes to an end -/

/-- How many assets are still being fetched. -/
def Gathering.left (gathering : Gathering) : Nat :=
  gathering.tasks.countP fun task => task.2 = .running

/-- How many steps a course can still take. -/
def Course.left (course : Course) : Nat :=
  course.tasks.left + if course.noticed.isNone then 1 else 0

theorem TaskState.ofResult_ne_running (result : Except Fault String) :
    ofResult result ≠ .running := by
  cases result <;> simp [ofResult]

theorem TaskState.ofResult_ne_cancelled (result : Except Fault String) :
    ofResult result ≠ .cancelled := by
  cases result <;> simp [ofResult]

theorem TaskState.ofResult_injective : Function.Injective ofResult := by
  intro result other h
  cases result with
  | ok place => exact (ofResult_eq_finished.mp h.symm).symm
  | error fault => exact (ofResult_eq_failed.mp h.symm).symm

theorem Gathering.left_settle_lt {id : String} {next : TaskState} {gathering : Gathering}
    (h : gathering.awaits id) (hnext : next ≠ .running) :
    (gathering.settle id next).left < gathering.left := by
  obtain ⟨before, after, hsplit⟩ := List.append_of_mem (awaits_iff.mp h)
  have hle : ∀ tasks : List (String × TaskState),
      (tasks.countP fun task =>
        decide ((if task.1 = id ∧ task.2 = .running then next else task.2) = .running)) ≤
        tasks.countP fun task => task.2 = .running := by
    intro tasks
    refine List.countP_mono_left fun task _ hrunning => ?_
    rw [decide_eq_true_eq] at hrunning ⊢
    split at hrunning
    next => exact absurd hrunning hnext
    next => exact hrunning
  have hbefore := hle before
  have hafter := hle after
  simp only [left, settle, hsplit, List.countP_map, Function.comp_def, List.countP_append,
    List.countP_cons, hnext, and_self, if_true, decide_true, decide_false, Bool.false_eq_true,
    if_false]
  omega

theorem Gathering.isRunning_iff {gathering : Gathering} :
    gathering.isRunning = true ↔ ∃ id, gathering.awaits id := by
  rw [← Bool.not_eq_false, isRunning_eq_false, not_forall]
  simp only [awaits_iff, not_not]

namespace Course

/-- Each step takes the course closer to its end, so it takes no more steps than it has
    assets and one. -/
theorem Step.left_lt {course next : Course} (h : course.Step next) : next.left < course.left := by
  cases h with
  | ended id result hawaits =>
      exact Nat.add_lt_add_right
        (Gathering.left_settle_lt hawaits (TaskState.ofResult_ne_running result)) _
  | woken hwoken => simp [left]
  | calledOff id hawaits =>
      exact Nat.add_lt_add_right (Gathering.left_settle_lt hawaits (by simp)) _

theorem left_start (items : List Wanted) : (start items).left = items.length + 1 := by
  simp [left, start, Gathering.start, Gathering.left, Function.comp_def]

/-- A course goes on until it has come to a result. -/
theorem step_or_returns (course : Course) :
    (∃ next, course.Step next) ∨ ∃ result, course.Returns result := by
  obtain ⟨tasks, noticed, deliveries⟩ := course
  cases hrunning : tasks.isRunning with
  | true =>
      obtain ⟨id, hawaits⟩ := Gathering.isRunning_iff.mp hrunning
      exact .inl ⟨_, .ended id (.ok "") hawaits⟩
  | false =>
      cases noticed with
      | none => exact .inl ⟨_, .woken (.inr hrunning)⟩
      | some done =>
          cases hfailure : done.failure? with
          | none => exact .inr ⟨_, .returned rfl hrunning hfailure (.refl _)⟩
          | some fault =>
              obtain ⟨id, hmem⟩ := Gathering.exists_of_failure? hfailure
              exact .inr ⟨_, .raised rfl hrunning hmem⟩

end Course

/-! ## What the steps of a course keep -/

/-- The same assets later on: those that had ended are as they were. -/
structure Gathering.Onward (earlier later : Gathering) : Prop where
  ids : later.tasks.map Prod.fst = earlier.tasks.map Prod.fst
  kept : ∀ id state, (id, state) ∈ earlier.tasks → state ≠ .running → (id, state) ∈ later.tasks
  before : ∀ id state, (id, state) ∈ later.tasks →
    (id, state) ∈ earlier.tasks ∨ (id, .running) ∈ earlier.tasks

theorem Gathering.Onward.refl (gathering : Gathering) : gathering.Onward gathering :=
  ⟨rfl, fun _ _ hmem _ => hmem, fun _ _ hmem => .inl hmem⟩

theorem Gathering.Onward.settle {earlier later : Gathering} (h : earlier.Onward later)
    (id : String) (next : TaskState) : earlier.Onward (later.settle id next) where
  ids := (map_fst_settle id next later).trans h.ids
  kept other state hmem hstate :=
    mem_settle.mpr ⟨state, h.kept other state hmem hstate, by simp [hstate]⟩
  before other state hmem := by
    obtain ⟨before, hbefore, hstate⟩ := mem_settle.mp hmem
    split at hstate
    next hsame =>
      rw [hsame.2] at hbefore
      exact .inr (or_self_iff.mp (h.before other _ hbefore))
    next =>
      rw [hstate]
      exact h.before other before hbefore

/-- After the end of one asset, another state than that of a running asset is an earlier one, or
    it is that of the asset that ended. -/
theorem Gathering.mem_settle_of_ne {id other : String} {next state : TaskState}
    {gathering : Gathering} (hstate : state ≠ .running) :
    (other, state) ∈ (gathering.settle id next).tasks ↔
      (other, state) ∈ gathering.tasks ∨ gathering.awaits id ∧ other = id ∧ state = next := by
  rw [mem_settle]
  constructor
  · rintro ⟨before, hbefore, hafter⟩
    split at hafter
    next hsame =>
      obtain ⟨rfl, rfl⟩ := hsame
      exact .inr ⟨awaits_iff.mpr hbefore, rfl, hafter⟩
    next => exact .inl (hafter ▸ hbefore)
  · rintro (hmem | ⟨hawaits, rfl, rfl⟩)
    · exact ⟨state, hmem, by simp [hstate]⟩
    · exact ⟨.running, awaits_iff.mp hawaits, by simp⟩

namespace Course

/-- What holds in the course of fetching the assets with these ids: nothing is called off
    before the wait is over, and it is over for a reason; and the assets that have ended by
    themselves are those that have been delivered. -/
structure Orderly (ids : List String) (course : Course) : Prop where
  ids : course.tasks.tasks.map Prod.fst = ids
  waiting : course.noticed = none → ∀ id, (id, .cancelled) ∉ course.tasks.tasks
  noticed : ∀ done, course.noticed = some done →
    done.Onward course.tasks ∧ (done.failure? ≠ none ∨ done.isRunning = false) ∧
      ∀ id, (id, .cancelled) ∉ done.tasks
  delivered : ∀ id result,
    ⟨id, result⟩ ∈ course.deliveries ↔ (id, .ofResult result) ∈ course.tasks.tasks

theorem orderly_start (items : List Wanted) :
    (start items).Orderly (items.map Wanted.mediaId) where
  ids := by simp [start, Gathering.start, Function.comp_def]
  waiting := by simp [start, Gathering.start]
  noticed := by simp [start]
  delivered id result := by
    simp [start, Gathering.start, (TaskState.ofResult_ne_running result).symm]

theorem Orderly.step {ids : List String} {course next : Course} (h : course.Orderly ids)
    (hstep : course.Step next) : next.Orderly ids := by
  cases hstep with
  | @ended tasks noticed deliveries id result hawaits =>
      refine ⟨(Gathering.map_fst_settle id _ tasks).trans h.ids, ?_, ?_, ?_⟩
      · intro hwaiting other hmem
        obtain ⟨before, hbefore, hstate⟩ := Gathering.mem_settle.mp hmem
        split at hstate
        next => exact TaskState.ofResult_ne_cancelled result hstate.symm
        next => exact h.waiting hwaiting other (hstate ▸ hbefore)
      · intro done hdone
        obtain ⟨honward, hrest⟩ := h.noticed done hdone
        exact ⟨honward.settle id _, hrest⟩
      · intro other more
        rw [Gathering.mem_settle_of_ne (TaskState.ofResult_ne_running more), ← h.delivered]
        simp [hawaits, TaskState.ofResult_injective.eq_iff]
  | @woken tasks deliveries hwoken =>
      refine ⟨h.ids, by simp, ?_, h.delivered⟩
      intro done hdone
      obtain rfl := Option.some.inj hdone
      exact ⟨.refl tasks, hwoken, h.waiting rfl⟩
  | @calledOff tasks done deliveries id hawaits =>
      refine ⟨(Gathering.map_fst_settle id _ tasks).trans h.ids, by simp, ?_, ?_⟩
      · intro other hother
        obtain ⟨honward, hrest⟩ := h.noticed other hother
        exact ⟨honward.settle id _, hrest⟩
      · intro other more
        rw [Gathering.mem_settle_of_ne (TaskState.ofResult_ne_running more), ← h.delivered]
        simp [TaskState.ofResult_ne_cancelled]

theorem orderly_of_reached {items : List Wanted} {course : Course} (h : Reached items course) :
    course.Orderly (items.map Wanted.mediaId) := by
  induction h with
  | refl => exact orderly_start items
  | tail _ hstep ih => exact ih.step hstep

end Course

/-! ## All or nothing -/

/-- What the fetching of the assets with these ids comes to, by what they have delivered. -/
structure AllOrNothing (ids : List String) (course : Course) (result : Except Fault Locators) :
    Prop where
  assets : course.tasks.tasks.map Prod.fst = ids
  /-- Every asset has ended; those that were not called off are where they have delivered. -/
  ended : ∀ id, (id, .running) ∉ course.tasks.tasks
  finished : ∀ id place,
    (id, .finished place) ∈ course.tasks.tasks ↔ ⟨id, .ok place⟩ ∈ course.deliveries
  failed : ∀ id fault,
    (id, .failed fault) ∈ course.tasks.tasks ↔ ⟨id, .error fault⟩ ∈ course.deliveries
  /-- All of them have come, or one has failed. -/
  either : (∀ id ∈ ids, ∃ place, ⟨id, .ok place⟩ ∈ course.deliveries) ∨
    ∃ id fault, ⟨id, .error fault⟩ ∈ course.deliveries
  /-- If all have come, then the result is the map from the ids to the paths that the assets
      have delivered. -/
  all : (∀ id ∈ ids, ∃ place, ⟨id, .ok place⟩ ∈ course.deliveries) →
    ∃ locators, result = .ok locators ∧ (locators.map Prod.fst).Perm ids ∧
      ∀ id place, locators.find? id = some place ↔ ⟨id, .ok place⟩ ∈ course.deliveries
  /-- If one has failed, then the result is the error of one that has. -/
  nothing : (∃ id fault, ⟨id, .error fault⟩ ∈ course.deliveries) →
    ∃ id fault, ⟨id, .error fault⟩ ∈ course.deliveries ∧ result = .error fault

/-- The map to which assets come depends on their paths alone. -/
theorem AllOrNothing.find?_eq {ids : List String} {course : Course}
    {result : Except Fault Locators} (h : AllOrNothing ids course result)
    (place : String → String) (hall : ∀ id ∈ ids, ⟨id, .ok (place id)⟩ ∈ course.deliveries) :
    ∃ locators, result = .ok locators ∧
      ∀ id, locators.find? id = if id ∈ ids then some (place id) else none := by
  obtain ⟨locators, hok, hids, hfind⟩ := h.all fun id hid => ⟨place id, hall id hid⟩
  refine ⟨locators, hok, fun id => ?_⟩
  split
  next hid => exact (hfind id (place id)).mpr (hall id hid)
  next hid =>
    refine Option.eq_none_iff_forall_ne_some.mpr fun other hother => hid ?_
    exact hids.mem_iff.mp (List.mem_map_of_mem (mem_of_find?_eq_some hother))

/-- Assets that have ended without a failure or a calling off have come. -/
theorem Gathering.exists_place {gathering : Gathering} (hrunning : gathering.isRunning = false)
    (hfailure : gathering.failure? = none) (hcancelled : ∀ id, (id, .cancelled) ∉ gathering.tasks)
    {id : String} {state : TaskState} (hmem : (id, state) ∈ gathering.tasks) :
    ∃ place, state = .finished place := by
  cases state with
  | finished place => exact ⟨place, rfl⟩
  | running => exact absurd hmem (isRunning_eq_false.mp hrunning id)
  | failed fault => exact absurd hmem (failure?_eq_none.mp hfailure id fault)
  | cancelled => exact absurd hmem (hcancelled id)

namespace Course

variable {ids : List String} {course : Course} {done : Gathering}

/-- Without a failure by the end of the wait, that is how the assets have ended. -/
theorem Orderly.mem_iff (h : course.Orderly ids) (hnoticed : course.noticed = some done)
    (hnone : done.failure? = none) {id : String} {state : TaskState} :
    (id, state) ∈ course.tasks.tasks ↔ (id, state) ∈ done.tasks := by
  obtain ⟨honward, hreason, -⟩ := h.noticed done hnoticed
  have hidle : done.isRunning = false := hreason.resolve_left (not_not_intro hnone)
  have hnot := Gathering.isRunning_eq_false.mp hidle
  constructor
  · intro hmem
    exact (honward.before id state hmem).resolve_right (hnot id)
  · intro hmem
    exact honward.kept id state hmem fun hstate => hnot id (hstate ▸ hmem)

theorem Orderly.exists_place (h : course.Orderly ids) (hnoticed : course.noticed = some done)
    (hnone : done.failure? = none) {id : String} {state : TaskState}
    (hmem : (id, state) ∈ done.tasks) : ∃ place, state = .finished place := by
  obtain ⟨-, hreason, hcancelled⟩ := h.noticed done hnoticed
  exact Gathering.exists_place (hreason.resolve_left (not_not_intro hnone)) hnone hcancelled hmem

/-- A failure by the end of the wait has been delivered. -/
theorem Orderly.failed (h : course.Orderly ids) (hnoticed : course.noticed = some done)
    {id : String} {fault : Fault} (hmem : (id, .failed fault) ∈ done.tasks) :
    ⟨id, .error fault⟩ ∈ course.deliveries :=
  (h.delivered id (.error fault)).mpr
    ((h.noticed done hnoticed).1.kept id _ hmem (TaskState.ofResult_ne_running (.error fault)))

/-- Assets with ids of their own have delivered once at most. -/
theorem Orderly.result_eq (h : course.Orderly ids) (hnodup : ids.Nodup) {id : String}
    {result other : Except Fault String} (hresult : ⟨id, result⟩ ∈ course.deliveries)
    (hother : ⟨id, other⟩ ∈ course.deliveries) : result = other := by
  have hkeys : (course.tasks.tasks.map Prod.fst).Nodup := h.ids ▸ hnodup
  have hsame := List.inj_on_of_nodup_map hkeys ((h.delivered id result).mp hresult)
    ((h.delivered id other).mp hother) rfl
  exact TaskState.ofResult_injective (congrArg Prod.snd hsame)

/-- Without a failure by the end of the wait, every asset has delivered a path. -/
theorem Orderly.came (h : course.Orderly ids) (hnoticed : course.noticed = some done)
    (hnone : done.failure? = none) {id : String} (hid : id ∈ ids) :
    ∃ place, ⟨id, .ok place⟩ ∈ course.deliveries := by
  rw [← h.ids] at hid
  obtain ⟨⟨_, state⟩, hmem, rfl⟩ := List.mem_map.mp hid
  obtain ⟨place, rfl⟩ := h.exists_place hnoticed hnone ((h.mem_iff hnoticed hnone).mp hmem)
  exact ⟨place, (h.delivered _ (.ok place)).mpr hmem⟩

theorem Orderly.places (h : course.Orderly ids) (hnodup : ids.Nodup)
    (hnoticed : course.noticed = some done) (hnone : done.failure? = none) {locators : Locators}
    (hperm : locators.Perm done.places) :
    (locators.map Prod.fst).Perm ids ∧
      ∀ id place, locators.find? id = some place ↔ ⟨id, .ok place⟩ ∈ course.deliveries := by
  obtain ⟨honward, -, -⟩ := h.noticed done hnoticed
  have hids : (locators.map Prod.fst).Perm ids := by
    have hplaces := Gathering.map_fst_places fun id state => h.exists_place hnoticed hnone
    rw [← honward.ids, h.ids] at hplaces
    exact hplaces ▸ hperm.map Prod.fst
  have hmem : ∀ id place, (id, place) ∈ locators ↔ ⟨id, .ok place⟩ ∈ course.deliveries := by
    intro id place
    rw [h.delivered, hperm.mem_iff, Gathering.mem_places]
    exact (h.mem_iff hnoticed hnone).symm
  refine ⟨hids, fun id place => ⟨fun hfind => ?_, fun hplace => ?_⟩⟩
  · exact (hmem id place).mp (mem_of_find?_eq_some hfind)
  · exact Locators.find?_of_mem (hids.nodup_iff.mpr hnodup) ((hmem id place).mpr hplace)

theorem Orderly.allOrNothing (h : course.Orderly ids) (hnodup : ids.Nodup)
    {result : Except Fault Locators} (hreturns : course.Returns result) :
    AllOrNothing ids course result := by
  have hended : course.tasks.isRunning = false := by cases hreturns <;> assumption
  have hfinished : ∀ id place, (id, .finished place) ∈ course.tasks.tasks ↔
      ⟨id, .ok place⟩ ∈ course.deliveries := fun id place => (h.delivered id (.ok place)).symm
  have hfailed : ∀ id fault, (id, .failed fault) ∈ course.tasks.tasks ↔
      ⟨id, .error fault⟩ ∈ course.deliveries := fun id fault => (h.delivered id (.error fault)).symm
  refine ⟨h.ids, Gathering.isRunning_eq_false.mp hended, hfinished, hfailed, ?_, ?_, ?_⟩
  · cases hreturns with
    | raised hnoticed _ hmem => exact .inr ⟨_, _, h.failed hnoticed hmem⟩
    | returned hnoticed _ hnone _ => exact .inl fun id hid => h.came hnoticed hnone hid
  · intro hall
    cases hreturns with
    | @raised done id fault hnoticed _ hmem =>
        -- the asset that failed would have come as well
        have hfault := h.failed hnoticed hmem
        have hid : id ∈ ids := h.ids ▸ List.mem_map_of_mem ((hfailed id fault).mpr hfault)
        obtain ⟨place, hplace⟩ := hall id hid
        cases h.result_eq hnodup hplace hfault
    | returned hnoticed _ hnone hperm => exact ⟨_, rfl, h.places hnodup hnoticed hnone hperm⟩
  · rintro ⟨id, fault, hfault⟩
    cases hreturns with
    | raised hnoticed _ hmem => exact ⟨_, _, h.failed hnoticed hmem, rfl⟩
    | returned hnoticed _ hnone _ =>
        have hid : id ∈ ids := h.ids ▸ List.mem_map_of_mem ((hfailed id fault).mpr hfault)
        obtain ⟨place, hplace⟩ := h.came hnoticed hnone hid
        cases h.result_eq hnodup hplace hfault

end Course

/-! ## Gatherings as courses -/

theorem Gathering.cancel_of_idle {gathering : Gathering} (h : gathering.isRunning = false) :
    gathering.cancel = gathering := by
  have hsame : ∀ task ∈ gathering.tasks,
      (task.1, if task.2 = .running then .cancelled else task.2) = task := by
    rintro ⟨id, state⟩ hmem
    have hstate : state ≠ .running := fun heq => isRunning_eq_false.mp h id (heq ▸ hmem)
    simp [hstate]
  rw [cancel, List.map_congr_left hsame, List.map_id']

theorem Gathering.cancel_settle (id : String) (gathering : Gathering) :
    (gathering.settle id .cancelled).cancel = gathering.cancel := by
  simp only [cancel, settle, List.map_map, Gathering.mk.injEq]
  refine List.map_congr_left fun task _ => ?_
  by_cases hstate : task.2 = .running
  · by_cases hid : task.1 = id <;> simp [hstate, hid]
  · simp [hstate]

/-- The stages of a fetching, with what has been delivered on the way to them. -/
inductive Gathering.Delivers (items : List Wanted) : List Delivery → Gathering → Prop
  | start : Delivers items [] (.start items)
  | finish {deliveries : List Delivery} {gathering : Gathering} (delivery : Delivery)
      (hbefore : Delivers items deliveries gathering) (h : gathering.awaits delivery.mediaId) :
      Delivers items (deliveries ++ [delivery])
        (gathering.finish delivery.mediaId delivery.result)

theorem Gathering.passes_iff {items : List Wanted} {gathering : Gathering} :
    gathering.Passes items ↔ ∃ deliveries, Delivers items deliveries gathering := by
  constructor
  · intro h
    induction h with
    | start => exact ⟨[], .start⟩
    | finish mediaId result _ hawaits ih =>
        obtain ⟨deliveries, hbefore⟩ := ih
        exact ⟨_, .finish ⟨mediaId, result⟩ hbefore hawaits⟩
  · rintro ⟨deliveries, h⟩
    induction h with
    | start => exact .start
    | finish delivery _ hawaits ih => exact .finish delivery.mediaId delivery.result ih hawaits

namespace Course

/-- After the wait, everything that is still running can be called off one after the other. -/
theorem steps_cancel (done tasks : Gathering) (deliveries : List Delivery) :
    Relation.ReflTransGen Step ⟨tasks, some done, deliveries⟩
      ⟨tasks.cancel, some done, deliveries⟩ := by
  cases hrunning : tasks.isRunning with
  | false => rw [Gathering.cancel_of_idle hrunning]
  | true =>
      obtain ⟨id, hawaits⟩ := Gathering.isRunning_iff.mp hrunning
      have hless : (tasks.settle id .cancelled).left < tasks.left :=
        Gathering.left_settle_lt hawaits (by simp)
      have hrest := steps_cancel done (tasks.settle id .cancelled) deliveries
      rw [Gathering.cancel_settle] at hrest
      exact .head (.calledOff id hawaits) hrest
termination_by tasks.left

/-- A gathering that calls off everything at the first failure takes one of the courses: it
    is still waiting without a failure, or all of its assets have ended with one. -/
theorem reached_of_delivers {items : List Wanted} {deliveries : List Delivery}
    {gathering : Gathering} (h : gathering.Delivers items deliveries) :
    (gathering.failure? = none ∧ Reached items ⟨gathering, none, deliveries⟩) ∨
    ∃ done, Reached items ⟨gathering, some done, deliveries⟩ ∧ gathering.isRunning = false ∧
      gathering.failure? ≠ none ∧
      ∀ id fault, (id, .failed fault) ∈ gathering.tasks → (id, .failed fault) ∈ done.tasks := by
  induction h with
  | start => exact .inl ⟨Gathering.failure?_start items, .refl⟩
  | @finish deliveries gathering delivery hbefore hawaits ih =>
      obtain ⟨id, result⟩ := delivery
      rcases ih with ⟨hnone, hreached⟩ | ⟨done, -, hidle, -⟩
      · cases result with
        | ok place =>
            exact .inl ⟨Gathering.failure?_finish_ok hnone id place,
              hreached.tail (.ended id (.ok place) hawaits)⟩
        | error fault =>
            have hsettled : (id, .failed fault) ∈
                (gathering.settle id (.failed fault)).tasks :=
              Gathering.mem_settle.mpr ⟨.running, Gathering.awaits_iff.mp hawaits, by simp⟩
            have hfailed : (gathering.settle id (.failed fault)).failure? ≠ none :=
              fun hfound => Gathering.failure?_eq_none.mp hfound id fault hsettled
            have hended := (hreached.tail (.ended id (.error fault) hawaits)).tail
              (.woken (.inl hfailed))
            refine .inr ⟨_, hended.trans (steps_cancel _ _ _), Gathering.isRunning_cancel _, ?_, ?_⟩
            · exact fun hfound => Gathering.failure?_eq_none.mp hfound id fault
                (Gathering.mem_finish_error hawaits fault)
            · intro other raised hmem
              obtain ⟨before, hbefore, hstate⟩ := Gathering.mem_cancel.mp hmem
              split at hstate
              next => cases hstate
              next => exact hstate ▸ hbefore
      -- nothing is running any more, so nothing else can end
      · exact absurd (Gathering.awaits_iff.mp hawaits) (Gathering.isRunning_eq_false.mp hidle id)

theorem returns_of_delivers {items : List Wanted} {deliveries : List Delivery}
    {gathering : Gathering} {result : Except Fault Locators}
    (h : gathering.Delivers items deliveries) (houtcome : gathering.outcome? = some result) :
    ∃ course, Reached items course ∧ course.tasks = gathering ∧ course.deliveries = deliveries ∧
      course.Returns result := by
  rcases reached_of_delivers h with ⟨hnone, hreached⟩ | ⟨done, hreached, hidle, hfailed, hkept⟩
  · rw [Gathering.outcome?_of_failure?_eq_none hnone] at houtcome
    split at houtcome
    next => cases houtcome
    next hrunning =>
      obtain rfl := Option.some.inj houtcome
      have hidle := Bool.eq_false_iff.mpr hrunning
      exact ⟨_, hreached.tail (.woken (.inr hidle)), rfl, rfl,
        .returned rfl hidle hnone (.refl _)⟩
  · cases result with
    | ok locators => exact absurd (Gathering.outcome?_eq_ok.mp houtcome).2.1 hfailed
    | error fault =>
        obtain ⟨id, hmem⟩ := Gathering.exists_of_failure? (Gathering.failure?_of_outcome? houtcome)
        exact ⟨_, hreached, rfl, rfl, .raised rfl hidle (hkept id fault hmem)⟩

end Course

end Montage.Asset

namespace Montage.Web

open Montage.Asset Montage.File Montage.Number Montage.Timeline

/-! ## Fetching in virtual time -/

/-- What one transfer comes to: the path of the file that it writes, or an error. -/
def Transfer.delivered (directory : Path) (transfer : Transfer) (tree : Tree) :
    Except Fault String × Tree :=
  match transfer.received with
  | .error fault => (.error fault, tree)
  | .ok file =>
    match (Call.write (directory.child file.name) file.bytes).run.run tree with
    | (.error fault, after) => (.error fault, after)
    | (.ok (), after) => (.ok (directory.child file.name).text, after)

/-- The deliveries of transfers, one after the other, up to the first that fails. -/
def deliverAll (directory : Path) : List Transfer → Tree → List Delivery × Tree
  | [], tree => ([], tree)
  | transfer :: rest, tree =>
    match transfer.delivered directory tree with
    | (.error fault, after) => ([⟨transfer.item.mediaId, .error fault⟩], after)
    | (.ok place, after) =>
      let (deliveries, last) := deliverAll directory rest after
      (⟨transfer.item.mediaId, .ok place⟩ :: deliveries, last)

variable {directory : Path} {tree : Tree}

theorem received_of_delivered {transfer : Transfer} {place : String} {after : Tree}
    (h : transfer.delivered directory tree = (.ok place, after)) :
    ∃ file, transfer.received = .ok file ∧ place = (directory.child file.name).text := by
  unfold Transfer.delivered at h
  split at h
  next => cases h
  next file hreceived =>
    split at h
    next => cases h
    next =>
      cases h
      exact ⟨file, hreceived, rfl⟩

theorem deliverAll_cons_error {transfer : Transfer} {fault : Fault} {after : Tree}
    (h : transfer.delivered directory tree = (.error fault, after)) (rest : List Transfer) :
    deliverAll directory (transfer :: rest) tree =
      ([⟨transfer.item.mediaId, .error fault⟩], after) := by
  rw [deliverAll, h]

theorem deliverAll_cons_ok {transfer : Transfer} {place : String} {after : Tree}
    (h : transfer.delivered directory tree = (.ok place, after)) (rest : List Transfer) :
    deliverAll directory (transfer :: rest) tree =
      (⟨transfer.item.mediaId, .ok place⟩ :: (deliverAll directory rest after).1,
        (deliverAll directory rest after).2) := by
  rw [deliverAll, h]

/-- A path that is delivered is that of the file that one of the transfers comes to. -/
theorem exists_file_of_mem_deliverAll {transfers : List Transfer} {id place : String}
    (h : ⟨id, .ok place⟩ ∈ (deliverAll directory transfers tree).1) :
    ∃ transfer ∈ transfers, transfer.item.mediaId = id ∧
      ∃ file, transfer.received = .ok file ∧ place = (directory.child file.name).text := by
  induction transfers generalizing tree with
  | nil => cases h
  | cons transfer rest ih =>
      rcases hdelivered : transfer.delivered directory tree with ⟨result, after⟩
      cases result with
      | error fault =>
          rw [deliverAll_cons_error hdelivered, List.mem_singleton] at h
          cases h
      | ok path =>
          rw [deliverAll_cons_ok hdelivered, List.mem_cons] at h
          rcases h with hfirst | hrest
          · cases hfirst
            obtain ⟨file, hfile, hpath⟩ := received_of_delivered hdelivered
            exact ⟨transfer, List.mem_cons_self, rfl, file, hfile, hpath⟩
          · obtain ⟨other, hother, hfile⟩ := ih hrest
            exact ⟨other, List.mem_cons_of_mem transfer hother, hfile⟩

theorem run_deliver (transfer : Transfer) :
    (deliver directory transfer.received).run.run tree = transfer.delivered directory tree := by
  unfold Transfer.delivered
  cases transfer.received with
  | error fault => rfl
  | ok file =>
      simp only [deliver_ok, Call.run_bind]
      rcases (Call.write (directory.child file.name) file.bytes).run.run tree with ⟨written, after⟩
      cases written <;> rfl

theorem run_gather_of_idle {gathering : Gathering} (h : gathering.isRunning = false)
    (transfers : List Transfer) (time : Binary64) :
    (gather directory transfers gathering time).run tree = ((gathering, time), tree) := by
  cases transfers with
  | nil => rfl
  | cons transfer rest =>
      simp only [gather, h]
      rfl

theorem run_gather_cons {gathering : Gathering} (h : gathering.isRunning = true)
    (transfer : Transfer) (rest : List Transfer) (time : Binary64) :
    (gather directory (transfer :: rest) gathering time).run tree =
      (gather directory rest
        (gathering.finish transfer.item.mediaId (transfer.delivered directory tree).1)
        transfer.finish).run (transfer.delivered directory tree).2 := by
  rw [← run_deliver]
  simp only [gather, h]
  rfl

/-- A fetching delivers what a scan of its transfers gives, as long as all of them are awaited. -/
theorem delivers_gather {items : List Wanted} {transfers : List Transfer}
    {deliveries : List Delivery} {gathering : Gathering}
    (h : gathering.Delivers items deliveries)
    (hawaits : ∀ transfer ∈ transfers, gathering.awaits transfer.item.mediaId)
    (hnodup : (transfers.map fun transfer => transfer.item.mediaId).Nodup) (directory : Path)
    (time : Binary64) (tree : Tree) :
    let last := (gather directory transfers gathering time).run tree
    last.1.1.Delivers items (deliveries ++ (deliverAll directory transfers tree).1) ∧
      last.2 = (deliverAll directory transfers tree).2 := by
  induction transfers generalizing gathering deliveries time tree with
  | nil => exact ⟨(List.append_nil deliveries).symm ▸ h, rfl⟩
  | cons transfer rest ih =>
      have hfirst := hawaits transfer List.mem_cons_self
      have hrunning : gathering.isRunning = true := Gathering.isRunning_iff.mpr ⟨_, hfirst⟩
      obtain ⟨hhead, hrest⟩ := List.nodup_cons.mp hnodup
      rw [run_gather_cons hrunning]
      rcases hdelivered : transfer.delivered directory tree with ⟨result, after⟩
      have hnext := h.finish ⟨transfer.item.mediaId, result⟩ hfirst
      cases result with
      -- a failure leaves nothing to be fetched
      | error fault =>
          have hidle : (gathering.finish transfer.item.mediaId (.error fault)).isRunning = false :=
            Gathering.isRunning_cancel _
          rw [deliverAll_cons_error hdelivered, run_gather_of_idle hidle]
          exact ⟨hnext, rfl⟩
      | ok place =>
          have hothers : ∀ other ∈ rest,
              (gathering.finish transfer.item.mediaId (.ok place)).awaits other.item.mediaId := by
            intro other hother
            refine Gathering.awaits_finish_ok (fun heq => hhead ?_)
              (hawaits other (List.mem_cons_of_mem transfer hother)) place
            exact List.mem_map.mpr ⟨other, hother, heq⟩
          obtain ⟨hlast, htree⟩ := ih hnext hothers hrest transfer.finish after
          rw [List.append_assoc] at hlast
          rw [deliverAll_cons_ok hdelivered]
          exact ⟨hlast, htree⟩

/-- Transfers that end in any order, with any results, take one of the courses to its end, and
    deliver what a scan of them gives. -/
theorem returns_gather {document : Document} {transfers : List Transfer}
    (h : (transfers.map Transfer.item).Perm (wanted document)) (directory : Path)
    (time : Binary64) (tree : Tree) :
    let last := (gather directory transfers (.start (wanted document)) time).run tree
    last.2 = (deliverAll directory transfers tree).2 ∧
    ∃ course result, Course.Reached (wanted document) course ∧ course.tasks = last.1.1 ∧
      course.deliveries = (deliverAll directory transfers tree).1 ∧
      last.1.1.outcome? = some result ∧ course.Returns result := by
  have houtstanding := outstanding_of_perm h
  obtain ⟨-, hended⟩ := gather_passes .start houtstanding directory time tree
  obtain ⟨result, houtcome⟩ := Gathering.exists_outcome hended
  obtain ⟨hdelivers, htree⟩ :=
    delivers_gather .start (awaits_of_perm h) houtstanding.nodup directory time tree
  obtain ⟨course, hreached, htasks, hdelivered, hreturns⟩ :=
    Course.returns_of_delivers hdelivers houtcome
  exact ⟨htree, course, result, hreached, htasks, hdelivered, houtcome, hreturns⟩

/-- What a whole fetching comes to, and the files that it leaves. -/
inductive Materializes (document : Document) (directory : Path) (transfers : List Transfer)
    (tree : Tree) : Except Fault Locators → Tree → Prop
  | nothing (hnone : wanted document = []) :
      Materializes document directory transfers tree (.ok []) tree
  /-- The directory cannot be made. -/
  | refused {fault : Fault} {after : Tree} (hsome : wanted document ≠ [])
      (hmade : (Call.makeDirectories directory).run.run tree = (.error fault, after)) :
      Materializes document directory transfers tree (.error fault) after
  /-- The transfers are delivered in their order, and what these deliveries come to is
      returned. -/
  | gathered {files : Tree} {course : Course} {result : Except Fault Locators}
      (hsome : wanted document ≠ [])
      (hmade : (Call.makeDirectories directory).run.run tree = (.ok (), files))
      (hreached : Course.Reached (wanted document) course)
      (hdelivered : course.deliveries = (deliverAll directory transfers files).1)
      (hreturns : course.Returns result) :
      Materializes document directory transfers tree result
        (deliverAll directory transfers files).2

theorem materializes (table : Table) (follows : Bool) (directory : Path) (document : Document)
    (tree : Tree) :
    let last := (materialize table follows directory document).run tree
    Materializes document directory (inOrder ((wanted document).map (transfer table follows)))
      tree last.1.outcome last.2 := by
  dsimp only
  rcases materialize_cases table follows directory document tree with
    ⟨hnone, hempty, hkept⟩ | ⟨hsome, fault, hmade, hfault⟩ | ⟨hsome, files, hmade, hgathered, hlast⟩
  · rw [hempty, hkept]
    exact .nothing hnone
  · rw [hfault]
    exact .refused hsome hmade
  · obtain ⟨htree, course, result, hreached, -, hdelivered, houtcome, hreturns⟩ :=
      returns_gather (map_item_inOrder table follows document) directory .zero files
    rw [hlast, htree]
    obtain rfl := Option.some.inj (houtcome.symm.trans hgathered)
    exact .gathered hsome hmade hreached hdelivered hreturns

/-! ## The fetching of a document -/

/-- How the assets of a document are fetched. -/
structure Fetches (document : Document) : Prop where
  /-- There is one asset for each medium that elements refer to and that has a url which is
      not empty. -/
  assets : (wanted document).map Wanted.mediaId = document.usedMediaIds
  nodup : document.usedMediaIds.Nodup
  used : ∀ id, id ∈ document.usedMediaIds ↔ id ∈ document.referencedMediaIds ∧
    ∃ asset url, document.mediaItems.find? id = some asset ∧ asset.url = some url ∧ url ≠ ""
  /-- Whatever happens, the fetching goes on until it has come to a result, and it takes no
      more steps than there are assets and one. -/
  progress : ∀ course, Course.Reached (wanted document) course →
    (∃ next, course.Step next) ∨ ∃ result, course.Returns result
  bound : (Course.start (wanted document)).left = document.usedMediaIds.length + 1 ∧
    ∀ course next : Course, course.Step next → next.left < course.left
  /-- It comes to all or nothing, once every asset has ended. -/
  outcome : ∀ course result, Course.Reached (wanted document) course → course.Returns result →
    AllOrNothing document.usedMediaIds course result
  /-- If every asset comes, then its path is all that matters, and not when it came. -/
  order : ∀ (place : String → String) course result,
    Course.Reached (wanted document) course → course.Returns result →
    (∀ id ∈ document.usedMediaIds, ⟨id, .ok (place id)⟩ ∈ course.deliveries) →
    ∃ locators, result = .ok locators ∧
      ∀ id, locators.find? id = if id ∈ document.usedMediaIds then some (place id) else none
  /-- This is so for an export task that fetches the assets: whatever is delivered to it in
      whatever order, that is what one of the courses delivers, -/
  stages : ∀ gathering, Gathering.Passes (wanted document) gathering ↔
    ∃ deliveries, Gathering.Delivers (wanted document) deliveries gathering
  passes : ∀ deliveries gathering result,
    Gathering.Delivers (wanted document) deliveries gathering →
    gathering.outcome? = some result →
    ∃ course, Course.Reached (wanted document) course ∧ course.tasks = gathering ∧
      course.deliveries = deliveries ∧ course.Returns result
  /-- for transfers that end in any order, -/
  gathers : ∀ transfers directory time tree,
    (transfers.map Transfer.item).Perm (wanted document) →
    let last := (gather directory transfers (.start (wanted document)) time).run tree
    last.2 = (deliverAll directory transfers tree).2 ∧
    ∃ course result, Course.Reached (wanted document) course ∧ course.tasks = last.1.1 ∧
      course.deliveries = (deliverAll directory transfers tree).1 ∧
      last.1.1.outcome? = some result ∧ course.Returns result
  /-- and for a whole fetching, with one transfer for each asset. -/
  transfers : ∀ table follows,
    ((inOrder ((wanted document).map (transfer table follows))).map Transfer.item).Perm
      (wanted document)
  materializes : ∀ table follows directory tree,
    let last := (materialize table follows directory document).run tree
    Materializes document directory (inOrder ((wanted document).map (transfer table follows)))
      tree last.1.outcome last.2

/-- Every document's assets are fetched in this way. -/
theorem materialize_allOrNothing (document : Document) : Fetches document := by
  have houtcome : ∀ course result, Course.Reached (wanted document) course →
      course.Returns result → AllOrNothing document.usedMediaIds course result := by
    intro course result hreached hreturns
    have horderly := Course.orderly_of_reached hreached
    rw [map_mediaId_wanted] at horderly
    exact horderly.allOrNothing (nodup_usedMediaIds document) hreturns
  have hcount : (wanted document).length = document.usedMediaIds.length := by
    rw [← map_mediaId_wanted, List.length_map]
  exact {
    assets := map_mediaId_wanted document
    nodup := nodup_usedMediaIds document
    used := fun _ => mem_usedMediaIds
    progress := fun course _ => course.step_or_returns
    bound := ⟨hcount ▸ Course.left_start (wanted document), fun _ _ hstep => hstep.left_lt⟩
    outcome := houtcome
    order := fun place course result hreached hreturns =>
      (houtcome course result hreached hreturns).find?_eq place
    stages := fun _ => Gathering.passes_iff
    passes := fun _ _ _ hdelivers => Course.returns_of_delivers hdelivers
    gathers := fun _ directory time tree h => returns_gather h directory time tree
    transfers := fun table follows => map_item_inOrder table follows document
    materializes := fun table follows directory tree =>
      materializes table follows directory document tree }

end Montage.Web
