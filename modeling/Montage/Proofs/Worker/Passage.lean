/-
  Montage.Proofs.Worker.Passage

  A task that goes through one moment after another, each in the world that others have
  left, and the stages that it comes to on its way.
-/
import Montage.Proofs.Worker.Answers
import Montage.Proofs.Worker.Moves

namespace Montage.Worker

/-! ## Moments -/

namespace Task

/-- One moment after the other, until the task is over. -/
def pass (config : Config) : List Moment → World × Task → World × Task
  | [], result => result
  | (world, event) :: rest, (last, task) =>
    if task.isOver then (last, task) else pass config rest (task.step config event world)

/-- The task after moments. -/
def after (config : Config) : List Moment → Task → Task
  | [], task => task
  | (world, event) :: rest, task => after config rest (task.step config event world).2

/-- The phases at which moments find a task. -/
def trail (config : Config) : List Moment → Task → List Phase
  | [], _ => []
  | (world, event) :: rest, task =>
    task.phase :: trail config rest (task.step config event world).2

variable {config : Config}

theorem after_append (first second : List Moment) (task : Task) :
    task.after config (first ++ second) = (task.after config first).after config second := by
  induction first generalizing task with
  | nil => rfl
  | cons moment rest ih => exact ih _

theorem trail_append (first second : List Moment) (task : Task) :
    task.trail config (first ++ second) =
      task.trail config first ++ (task.after config first).trail config second := by
  induction first generalizing task with
  | nil => rfl
  | cons moment rest ih => exact congrArg (List.cons task.phase) (ih _)

theorem job_after (moments : List Moment) (task : Task) :
    (task.after config moments).job = task.job := by
  induction moments generalizing task with
  | nil => rfl
  | cons moment rest ih =>
      exact (ih _).trans (task.keeps_step config moment.2 moment.1).later.job

/-- What holds of a task and is kept by its steps holds on the whole way. -/
theorem forall_trail {property : Phase → Prop}
    (hstep : ∀ (task : Task) event world, property task.phase →
      property (task.step config event world).2.phase)
    (moments : List Moment) {task : Task} (h : property task.phase) :
    ∀ phase ∈ task.trail config moments, property phase := by
  induction moments generalizing task with
  | nil => exact fun phase hphase => absurd hphase List.not_mem_nil
  | cons moment rest ih =>
      intro phase hphase
      rcases List.mem_cons.mp hphase with rfl | hlater
      · exact h
      · exact ih (hstep task moment.2 moment.1 h) phase hlater

/-! ## Rest -/

/-- A task that no moment moves. -/
def Rests (config : Config) (task : Task) (moments : List Moment) : Prop :=
  ∀ moment ∈ moments, (task.step config moment.2 moment.1).2 = task

theorem Rests.after {task : Task} {moments : List Moment} (h : task.Rests config moments) :
    task.after config moments = task := by
  induction moments with
  | nil => rfl
  | cons moment rest ih =>
      obtain ⟨hfirst, hrest⟩ := List.forall_mem_cons.mp h
      show (task.step config moment.2 moment.1).2.after config rest = task
      rw [hfirst]
      exact ih hrest

theorem Rests.trail {task : Task} {moments : List Moment} (h : task.Rests config moments) :
    ∀ phase ∈ task.trail config moments, phase = task.phase := by
  induction moments with
  | nil => exact fun phase hphase => absurd hphase List.not_mem_nil
  | cons moment rest ih =>
      obtain ⟨hfirst, hrest⟩ := List.forall_mem_cons.mp h
      intro phase hphase
      rcases List.mem_cons.mp hphase with hnow | hlater
      · exact hnow
      · rw [hfirst] at hlater
        exact ih hrest phase hlater

theorem step_of_isOver {task : Task} (h : task.isOver = true) (event : TaskEvent) (world : World) :
    (task.step config event world).2 = task := by
  unfold isOver at h
  split at h
  next ending hphase =>
    unfold step
    rw [hphase]
    cases event with
    | launched fault => cases fault <;> rfl
    | cancel committed => simp only [cancelAt, hphase]
    | _ => rfl
  next => cases h

theorem rests_of_isOver {task : Task} (h : task.isOver = true) (moments : List Moment) :
    task.Rests config moments :=
  fun moment _ => step_of_isOver h moment.2 moment.1

/-- The task that goes through moments is the one after them. -/
theorem pass_snd (moments : List Moment) (result : World × Task) :
    (pass config moments result).2 = result.2.after config moments := by
  induction moments generalizing result with
  | nil => rfl
  | cons moment rest ih =>
      obtain ⟨last, task⟩ := result
      unfold pass
      split
      next hover => exact ((rests_of_isOver hover (moment :: rest)).after).symm
      next => exact ih _

theorem pass_of_isOver {result : World × Task} (h : result.2.isOver = true)
    (moments : List Moment) : pass config moments result = result := by
  cases moments with
  | nil => rfl
  | cons moment rest => rw [pass, if_pos h]

theorem pass_cons {result : World × Task} (h : result.2.isOver = false) (moment : Moment)
    (rest : List Moment) :
    pass config (moment :: rest) result =
      pass config rest (result.2.step config moment.2 moment.1) := by
  rw [pass, h]
  rfl

theorem pass_append (first second : List Moment) (result : World × Task) :
    pass config (first ++ second) result = pass config second (pass config first result) := by
  induction first generalizing result with
  | nil => rfl
  | cons moment rest ih =>
      cases hover : result.2.isOver with
      | false =>
          rw [List.cons_append, pass_cons hover, pass_cons hover]
          exact ih _
      | true => rw [pass_of_isOver hover, pass_of_isOver hover, pass_of_isOver hover]

end Task

/-! ## Stages on the way -/

theorem Stage.attempt_eq_ok {α : Type} {stage : Stage} {result : Except Fault α} {a : α} :
    stage.attempt result = .ok a ↔ result = .ok a := by
  cases result with
  | ok value => exact ⟨fun h => Except.ok.inj h ▸ rfl, fun h => Except.ok.inj h ▸ rfl⟩
  | error fault => exact ⟨nofun, nofun⟩

/-- The stage that a task is at. -/
def Phase.stage? : Phase → Option Stage
  | .created => some .scratch
  | .reading => some .reading
  | .fetching _ _ => some .fetching
  | .starting _ => some .rendering
  | .rendering _ => some .rendering
  | .uploading => some .uploading
  | .signing => some .signing
  | .completing _ => some .recording
  | .failing _ _ => none
  | .ended _ => none

/-- Whether a phase belongs to no stage after a position. -/
def Phase.Within (position : Nat) (phase : Phase) : Prop :=
  ∀ stage, phase.stage? = some stage → stage.position ≤ position

theorem Phase.Within.mono {first last : Nat} {phase : Phase} (h : phase.Within first)
    (hle : first ≤ last) : phase.Within last :=
  fun stage hstage => Nat.le_trans (h stage hstage) hle

theorem Phase.within_of {phase : Phase} (stage : Stage) (h : phase.stage? = some stage) :
    phase.Within stage.position := by
  intro other hother
  rw [h] at hother
  cases hother
  exact Nat.le_refl _

/-- Whether an event can do nothing to a task that is about to record a failure. -/
def TaskEvent.IsForward : TaskEvent → Prop
  | .failureWritten _ | .cancel _ => False
  | _ => True

/-- Moments lead a task to where a result of stages says: to what comes after the stages,
    or to the record of a trouble, and then no later stage is come to. -/
structure Task.Leads {α : Type} (config : Config) (task : Task) (moments : List Moment)
    (result : Except Trouble α) (first last : Nat) (arrived : α → Phase → Prop) : Prop where
  arrives : ∀ a, result = .ok a → arrived a (task.after config moments).phase ∧
    ∀ phase ∈ task.trail config moments, phase.Within last
  fails : ∀ trouble, result = .error trouble →
    (task.after config moments).phase = .failing (trouble.message task.job) false ∧
      first ≤ trouble.stage.position ∧ trouble.stage.position < last ∧
      ∀ phase ∈ task.trail config moments, phase.Within trouble.stage.position

namespace Task

variable {config : Config} {task : Task}

theorem rests_failing {message : String} {cancelled : Bool}
    (hphase : task.phase = .failing message cancelled) {moments : List Moment}
    (hforward : ∀ moment ∈ moments, moment.2.IsForward) : task.Rests config moments := by
  rintro ⟨world, event⟩ hmoment
  have hevent := hforward _ hmoment
  unfold step
  rw [hphase]
  cases event with
  | failureWritten reply => exact hevent.elim
  | cancel committed => exact hevent.elim
  | launched fault => cases fault <;> rfl
  | _ => rfl

theorem within_failing {phase : Phase} {message : String} {cancelled : Bool}
    (h : phase = .failing message cancelled) (position : Nat) : phase.Within position := by
  subst h
  nofun

/-- Fewer or more stages around those that moments lead through. -/
theorem Leads.mono {α : Type} {moments : List Moment} {result : Except Trouble α}
    {first last lower upper : Nat} {arrived : α → Phase → Prop}
    (h : task.Leads config moments result first last arrived) (hlower : lower ≤ first)
    (hupper : last ≤ upper) : task.Leads config moments result lower upper arrived := by
  constructor
  · intro a ha
    obtain ⟨harrived, htrail⟩ := h.arrives a ha
    exact ⟨harrived, fun phase hmem => (htrail phase hmem).mono hupper⟩
  · intro trouble htrouble
    obtain ⟨hphase, hlow, hhigh, htrail⟩ := h.fails trouble htrouble
    exact ⟨hphase, Nat.le_trans hlower hlow, Nat.lt_of_lt_of_le hhigh hupper, htrail⟩

/-- Moments before others, at no later stage. -/
theorem Leads.append {α : Type} {earlier later : List Moment} {result : Except Trouble α}
    {first last : Nat} {arrived : α → Phase → Prop}
    (h : (task.after config earlier).Leads config later result first last arrived)
    (hbefore : ∀ phase ∈ task.trail config earlier, phase.Within first) (hlast : first ≤ last) :
    task.Leads config (earlier ++ later) result first last arrived := by
  constructor
  · intro a ha
    obtain ⟨harrived, htrail⟩ := h.arrives a ha
    rw [after_append, trail_append]
    refine ⟨harrived, List.forall_mem_append.mpr ⟨fun phase hmem => ?_, htrail⟩⟩
    exact (hbefore phase hmem).mono hlast
  · intro trouble htrouble
    obtain ⟨hphase, hlow, hhigh, htrail⟩ := h.fails trouble htrouble
    rw [job_after] at hphase
    rw [after_append, trail_append]
    refine ⟨hphase, hlow, hhigh, List.forall_mem_append.mpr ⟨fun phase hmem => ?_, htrail⟩⟩
    exact (hbefore phase hmem).mono hlow

/-- One moment before others, at no later stage. -/
theorem Leads.cons {α : Type} {moment : Moment} {rest : List Moment} {result : Except Trouble α}
    {first last : Nat} {arrived : α → Phase → Prop}
    (h : (task.step config moment.2 moment.1).2.Leads config rest result first last arrived)
    (hphase : task.phase.Within first) (hlast : first ≤ last) :
    task.Leads config (moment :: rest) result first last arrived := by
  have hafter : (task.after config [moment]).Leads config rest result first last arrived := h
  exact hafter.append (List.forall_mem_singleton.mpr hphase) hlast

/-- A task that is about to record a trouble. -/
theorem leads_failing {α : Type} {trouble : Trouble} {first last : Nat} {moments : List Moment}
    (hphase : task.phase = .failing (trouble.message task.job) false)
    (hfirst : first ≤ trouble.stage.position) (hlast : trouble.stage.position < last)
    (hforward : ∀ moment ∈ moments, moment.2.IsForward) (arrived : α → Phase → Prop) :
    task.Leads config moments (.error trouble) first last arrived := by
  have hrests : task.Rests config moments := rests_failing hphase hforward
  constructor
  · intro a ha
    cases ha
  · intro other hother
    cases hother
    rw [hrests.after]
    refine ⟨hphase, hfirst, hlast, fun phase hmem => ?_⟩
    exact within_failing ((hrests.trail phase hmem).trans hphase) _

/-- A task that has come to where a result says. -/
theorem leads_arrived {α : Type} {a : α} {first last : Nat} {moments : List Moment}
    {arrived : α → Phase → Prop} (harrived : arrived a task.phase)
    (hwithin : task.phase.Within last) (hrests : task.Rests config moments) :
    task.Leads config moments (.ok a) first last arrived := by
  constructor
  · intro other hother
    cases hother
    rw [hrests.after]
    refine ⟨harrived, fun phase hmem => ?_⟩
    rw [hrests.trail phase hmem]
    exact hwithin
  · intro trouble htrouble
    cases htrouble

/-- One moment that is a whole stage. -/
theorem leads_stage {α : Type} {stage : Stage} {result : Except Fault α} {moment : Moment}
    {arrived : α → Phase → Prop} (hphase : task.phase.Within stage.position)
    (hok : ∀ a, result = .ok a → arrived a (task.step config moment.2 moment.1).2.phase)
    (herror : ∀ fault, result = .error fault →
      (task.step config moment.2 moment.1).2.phase =
        .failing (Trouble.message task.job ⟨stage, fault⟩) false) :
    task.Leads config [moment] (stage.attempt result) stage.position (stage.position + 1)
      arrived := by
  have htrail : ∀ phase ∈ task.trail config [moment], phase.Within stage.position :=
    List.forall_mem_singleton.mpr hphase
  constructor
  · intro a ha
    cases result with
    | error fault => cases ha
    | ok value =>
        cases ha
        exact ⟨hok a rfl, fun phase hmem => (htrail phase hmem).mono (Nat.le_succ _)⟩
  · intro trouble htrouble
    cases result with
    | ok value => cases htrouble
    | error fault =>
        cases htrouble
        exact ⟨herror fault rfl, Nat.le_refl _, Nat.lt_succ_self _, htrail⟩

/-- Stages one after the other. -/
theorem Leads.bind {α β : Type} {first middle last : Nat} {earlier later : List Moment}
    {result : Except Trouble α} {next : α → Except Trouble β} {arrived : α → Phase → Prop}
    {reached : β → Phase → Prop}
    (h : task.Leads config earlier result first middle arrived)
    (hnext : ∀ a (moved : Task), moved.job = task.job → arrived a moved.phase →
      moved.Leads config later (next a) middle last reached)
    (hforward : ∀ moment ∈ later, moment.2.IsForward)
    (hfirst : first ≤ middle) (hlast : middle ≤ last) :
    task.Leads config (earlier ++ later) (result >>= next) first last reached := by
  have hjob : (task.after config earlier).job = task.job := job_after earlier task
  cases result with
  | error trouble =>
      obtain ⟨hphase, hlow, hhigh, htrail⟩ := h.fails trouble rfl
      rw [← hjob] at hphase
      have hbound : trouble.stage.position < last := Nat.lt_of_lt_of_le hhigh hlast
      -- nothing moves the task any more, so the later stages are not come to
      have hrest : (task.after config earlier).Leads config later (.error trouble)
          trouble.stage.position last reached :=
        leads_failing hphase (Nat.le_refl _) hbound hforward reached
      exact (hrest.append htrail (Nat.le_of_lt hbound)).mono hlow (Nat.le_refl _)
  | ok a =>
      obtain ⟨harrived, htrail⟩ := h.arrives a rfl
      have hrest := hnext a (task.after config earlier) hjob harrived
      exact (hrest.append htrail hlast).mono hfirst (Nat.le_refl _)

end Task

end Montage.Worker
