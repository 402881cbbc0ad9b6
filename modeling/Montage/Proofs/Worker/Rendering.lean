/-
  Montage.Proofs.Worker.Rendering

  What a worker gives to the engine.  A job comes to the engine only with a compilation
  of its timeline in which every medium is a file that was fetched for the job.
-/
import Montage.Proofs.Compile.Materialized
import Montage.Proofs.Worker.Moves

namespace Montage.Worker

open Montage.Asset Montage.Compile Montage.File Montage.Jobs Montage.Timeline

/-! ## Fetched files -/

theorem exists_name_assetDirectory (config : Config) (id : JobId) :
    ∃ name ∈ (assetDirectory config id).names, name ≠ "" := by
  have hassets : Path.ofText "assets" = ⟨.relative, ["assets"]⟩ := by decide +kernel
  refine ⟨"assets", ?_, by decide⟩
  rw [assetDirectory, Path.child, hassets]
  simp [Path.join]

/-- The place of an asset that was delivered for a job is not empty. -/
theorem place_ne_empty {config : Config} {id : JobId} {received : Except Fault Received}
    {world : World} {place : String}
    (h : (world.onFiles (deliver (assetDirectory config id) received)).1 = .ok place) :
    place ≠ "" := by
  rcases hrun : (deliver (assetDirectory config id) received).run.run world.files with
    ⟨result, files⟩
  have hresult : result = .ok place := by
    rw [World.onFiles, hrun] at h
    exact h
  rw [hresult] at hrun
  obtain ⟨file, -, rfl, -⟩ := deliver_eq_ok hrun
  exact Path.text_child_ne_empty (exists_name_assetDirectory config id) file.name

/-! ## What the engine is given -/

/-- Arguments of the engine that read fetched files. -/
def ReadsFiles (config : Config) (arguments : List String) : Prop :=
  ∃ document locators compilation,
    Gathering.Fetched (wanted document) locators ∧
    compile config.options (document.withLocators locators) = .ok compilation ∧
    arguments = compilation.arguments ∧
    ReadsFetched config.options document locators compilation

/-- Where the fetching of assets stands, and what it leads to. -/
def Phase.Prepared (config : Config) : Phase → Prop
  | .fetching document gathering =>
    Gathering.Passes (wanted document) gathering ∧
      ∀ id place, (id, .finished place) ∈ gathering.tasks → place ≠ ""
  | .starting arguments => ReadsFiles config arguments
  | _ => True

namespace Task

theorem prepared_compileWith {config : Config} {document : Document} {locators : Locators}
    (hfetched : Gathering.Fetched (wanted document) locators)
    (hplaces : ∀ entry ∈ locators, entry.2 ≠ "") (task : Task) :
    (task.compileWith config document locators).phase.Prepared config := by
  unfold compileWith
  split
  next compilation h =>
    exact ⟨document, locators, compilation, hfetched, h, rfl, readsFetched hfetched hplaces h⟩
  next => exact trivial

theorem prepared_useText (config : Config) (text : String) (world : World) (task : Task) :
    (task.useText config text world).2.phase.Prepared config := by
  unfold useText
  split
  · exact trivial
  · rename_i document _
    split
    next hnone =>
      -- there is nothing to fetch
      have hfetched : Gathering.Fetched (wanted document) [] := by
        rw [hnone]
        exact ⟨.start [], .start, rfl⟩
      exact prepared_compileWith hfetched nofun task
    next =>
      split
      · exact trivial
      · refine ⟨.start, fun id place hmem => ?_⟩
        simp [Gathering.start] at hmem

theorem prepared_useAsset {config : Config} {document : Document} {gathering : Gathering}
    (hpasses : Gathering.Passes (wanted document) gathering)
    (hplaces : ∀ id place, (id, .finished place) ∈ gathering.tasks → place ≠ "") (task : Task) :
    (task.useAsset config document gathering).phase.Prepared config := by
  unfold useAsset
  split
  · exact ⟨hpasses, hplaces⟩
  · exact trivial
  · rename_i locators houtcome
    refine prepared_compileWith ⟨gathering, hpasses, houtcome⟩ ?_ task
    obtain ⟨-, -, rfl⟩ := Gathering.outcome?_eq_ok.mp houtcome
    intro entry hentry
    exact hplaces entry.1 entry.2 (Gathering.mem_places.mp hentry)

theorem prepared_useRun (config : Config) (run : Engine.Run) (task : Task) :
    (task.useRun run).phase.Prepared config := by
  unfold useRun
  split <;> exact trivial

theorem prepared_asset {config : Config} {document : Document} {gathering : Gathering} {task : Task}
    (hprepared : (Phase.fetching document gathering).Prepared config) {mediaId : String}
    (hawaits : gathering.awaits mediaId) (received : Except Fault Received) (world : World) :
    let result := (world.onFiles (deliver (assetDirectory config task.job.id) received)).1
    (task.useAsset config document (gathering.finish mediaId result)).phase.Prepared config := by
  intro result
  obtain ⟨hpasses, hplaces⟩ := hprepared
  refine prepared_useAsset (.finish mediaId result hpasses hawaits) ?_ task
  intro id place hmem
  -- a place was there before, or it is that of the file just written
  rcases Gathering.mem_finish hmem with hbefore | ⟨-, hnew⟩
  · exact hplaces id place hbefore
  · exact place_ne_empty hnew

theorem prepared_cancelAt {config : Config} {task : Task} (h : task.phase.Prepared config)
    (committed : Bool) (world : World) :
    (task.cancelAt config committed world).2.phase.Prepared config := by
  unfold cancelAt
  dsimp only
  split
  · exact trivial
  · exact prepared_useRun config _ task
  · exact trivial
  · exact h
  · exact trivial

theorem prepared_step {config : Config} {task : Task} (h : task.phase.Prepared config)
    (event : TaskEvent) (world : World) :
    (task.step config event world).2.phase.Prepared config := by
  unfold step
  split
  · split <;> exact trivial
  · split
    · exact prepared_useText config _ _ task
    · exact trivial
  · rename_i mediaId received document gathering hphase
    rw [hphase] at h
    split
    next hawaits => exact prepared_asset h hawaits received world
    next =>
      rw [hphase]
      exact h
  · exact trivial
  · exact trivial
  · exact prepared_useRun config _ task
  · split
    · exact prepared_useRun config _ task
    · exact h
  · split <;> exact trivial
  · split <;> exact trivial
  · split <;> exact trivial
  · exact trivial
  · exact prepared_cancelAt h _ world
  · exact h

end Task

theorem invariant_prepared (config : Config) :
    Task.Invariant config fun task => task.phase.Prepared config := by
  refine ⟨fun _ _ => trivial, fun _ _ h => h, fun event world task h => ?_⟩
  exact task.prepared_step h event world

/-- Whatever happens to a fleet, the engine is started only with files that were fetched. -/
theorem Fleet.readsFiles_of_starting {fleet : Fleet} (hfresh : fleet.IsFresh)
    (actions : List Action) {member : Member} (hmember : member ∈ (fleet.run actions).members)
    {task : Task} (htask : task ∈ member.state.tasks) {arguments : List String}
    (hphase : task.phase = .starting arguments) : ReadsFiles member.config arguments := by
  have hall := forallTasks_run invariant_prepared (forallTasks_of_isFresh hfresh _) actions
  have hprepared : task.phase.Prepared member.config := hall member hmember task htask
  rw [hphase] at hprepared
  exact hprepared

end Montage.Worker
