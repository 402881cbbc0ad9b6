/-
  Montage.Proofs.Asset.Gathering

  What fetching several assets side by side comes to.  The assets end one by one, in any
  order; if the fetching succeeds then every asset has been fetched, so the locators name
  exactly the media that were wanted.
-/
import Mathlib.Data.List.Basic
import Montage.Proofs.Timeline.Media
import Montage.Web.Fetching

namespace Montage.Asset

open Montage.File Montage.Timeline

/-! ## What is fetched -/

/-- The media that are fetched are those in use that have a place. -/
theorem map_mediaId_wanted (document : Document) :
    (wanted document).map Wanted.mediaId = document.usedMediaIds := by
  rw [wanted, Document.usedMediaIds]
  induction document.referencedMediaIds with
  | nil => rfl
  | cons id rest ih =>
      cases hplace : (document.mediaItems.find? id).bind MediaAsset.locator? with
      | none =>
          have hskip : document.mediaItems.hasPlace id = false := by
            simp [MediaItems.hasPlace, hplace]
          rw [List.filterMap_cons_none (by simp [hplace]), ih,
            List.filter_cons_of_neg (by simp [hskip])]
      | some place =>
          have hkeep : document.mediaItems.hasPlace id = true := by
            simp [MediaItems.hasPlace, hplace]
          rw [List.filterMap_cons_some (b := ⟨id, place⟩) (by simp [hplace]), List.map_cons, ih,
            List.filter_cons_of_pos hkeep]

/-- The state of an asset whose fetching has come to a result. -/
def TaskState.ofResult : Except Fault String → TaskState
  | .ok place => .finished place
  | .error fault => .failed fault

theorem TaskState.ofResult_eq_finished {result : Except Fault String} {place : String} :
    ofResult result = .finished place ↔ result = .ok place := by
  cases result <;> simp [ofResult]

theorem TaskState.ofResult_eq_failed {result : Except Fault String} {fault : Fault} :
    ofResult result = .failed fault ↔ result = .error fault := by
  cases result <;> simp [ofResult]

namespace Gathering

/-! ## Runs -/

/-- The stages that the fetching of `items` passes through: whichever asset is still being
    fetched may be the next one to end, with any result. -/
inductive Passes (items : List Wanted) : Gathering → Prop
  | start : Passes items (.start items)
  | finish {gathering : Gathering} (mediaId : String) (result : Except Fault String) :
      Passes items gathering → gathering.awaits mediaId →
        Passes items (gathering.finish mediaId result)

theorem awaits_iff {mediaId : String} {gathering : Gathering} :
    gathering.awaits mediaId ↔ (mediaId, .running) ∈ gathering.tasks := by
  simp [awaits]

theorem map_fst_of_passes {items : List Wanted} {gathering : Gathering}
    (h : Passes items gathering) :
    gathering.tasks.map Prod.fst = items.map Wanted.mediaId := by
  induction h with
  | start => simp [start, Function.comp_def]
  | finish mediaId result _ _ ih => rw [map_fst_finish, ih]

/-! ## The states of assets -/

theorem mem_settle {id other : String} {next state : TaskState} {gathering : Gathering} :
    (other, state) ∈ (gathering.settle id next).tasks ↔
      ∃ before, (other, before) ∈ gathering.tasks ∧
        state = if other = id ∧ before = .running then next else before := by
  simp only [settle, List.mem_map, Prod.exists, Prod.mk.injEq]
  constructor
  · rintro ⟨name, before, hmem, rfl, rfl⟩
    exact ⟨before, hmem, rfl⟩
  · rintro ⟨before, hmem, rfl⟩
    exact ⟨other, before, hmem, rfl, rfl⟩

theorem mem_cancel {other : String} {state : TaskState} {gathering : Gathering} :
    (other, state) ∈ gathering.cancel.tasks ↔
      ∃ before, (other, before) ∈ gathering.tasks ∧
        state = if before = .running then .cancelled else before := by
  simp only [cancel, List.mem_map, Prod.exists, Prod.mk.injEq]
  constructor
  · rintro ⟨name, before, hmem, rfl, rfl⟩
    exact ⟨before, hmem, rfl⟩
  · rintro ⟨before, hmem, rfl⟩
    exact ⟨other, before, hmem, rfl, rfl⟩

theorem failure?_eq_none {gathering : Gathering} :
    gathering.failure? = none ↔ ∀ id fault, (id, .failed fault) ∉ gathering.tasks := by
  simp only [failure?, List.findSome?_eq_none_iff]
  constructor
  · intro h id fault hmem
    have hnone := h (id, .failed fault) hmem
    cases hnone
  · rintro h ⟨id, state⟩ hmem
    cases state with
    | failed fault => exact absurd hmem (h id fault)
    | running => rfl
    | finished place => rfl
    | cancelled => rfl

theorem isRunning_eq_false {gathering : Gathering} :
    gathering.isRunning = false ↔ ∀ id, (id, .running) ∉ gathering.tasks := by
  simp only [isRunning, List.any_eq_false]
  constructor
  · intro h id hmem
    exact h (id, .running) hmem (by simp)
  · rintro h ⟨id, state⟩ hmem hrunning
    have hstate : state = .running := by simpa using hrunning
    exact h id (hstate ▸ hmem)

/-- An asset that was being fetched and fails has failed. -/
theorem mem_finish_error {mediaId : String} {gathering : Gathering}
    (hawaits : gathering.awaits mediaId) (fault : Fault) :
    (mediaId, .failed fault) ∈ (gathering.finish mediaId (.error fault)).tasks := by
  have hsettled : (mediaId, .failed fault) ∈ (gathering.settle mediaId (.failed fault)).tasks :=
    mem_settle.mpr ⟨.running, awaits_iff.mp hawaits, by simp⟩
  exact mem_cancel.mpr ⟨.failed fault, hsettled, by simp⟩

/-- Only a failure calls assets off. -/
def OnlyFailuresCancel (gathering : Gathering) : Prop :=
  gathering.failure? = none → ∀ id, (id, .cancelled) ∉ gathering.tasks

theorem onlyFailuresCancel_finish {mediaId : String} {gathering : Gathering}
    (h : gathering.OnlyFailuresCancel) (hawaits : gathering.awaits mediaId)
    (result : Except Fault String) : (gathering.finish mediaId result).OnlyFailuresCancel := by
  intro hnone
  rw [failure?_eq_none] at hnone
  cases result with
  | error fault =>
      -- the asset that fails is the failure
      exact absurd (mem_finish_error hawaits fault) (hnone mediaId fault)
  | ok place =>
      have hbefore : gathering.failure? = none := by
        rw [failure?_eq_none]
        intro id fault hmem
        exact hnone id fault (mem_settle.mpr ⟨.failed fault, hmem, by simp⟩)
      intro id hmem
      obtain ⟨before, hmem, hstate⟩ := mem_settle.mp hmem
      split at hstate
      · cases hstate
      · exact h hbefore id (hstate ▸ hmem)

theorem onlyFailuresCancel_of_passes {items : List Wanted} {gathering : Gathering}
    (h : Passes items gathering) : gathering.OnlyFailuresCancel := by
  induction h with
  | start =>
      intro _ id hmem
      simp [start] at hmem
  | finish mediaId result _ hawaits ih => exact onlyFailuresCancel_finish ih hawaits result

/-- After the end of one asset an asset is called off, or as it was before, or it is the one
    that ended. -/
theorem mem_finish_cases {mediaId id : String} {result : Except Fault String} {state : TaskState}
    {gathering : Gathering} (h : (id, state) ∈ (gathering.finish mediaId result).tasks) :
    state = .cancelled ∨ (id, state) ∈ gathering.tasks ∨
      id = mediaId ∧ state = .ofResult result := by
  have hsettle : ∀ {next other : TaskState},
      (id, other) ∈ (gathering.settle mediaId next).tasks →
        (id, other) ∈ gathering.tasks ∨ id = mediaId ∧ other = next := by
    intro next other hmem
    obtain ⟨before, hbefore, hother⟩ := mem_settle.mp hmem
    split at hother
    next hsame => exact .inr ⟨hsame.1, hother⟩
    next => exact .inl (hother ▸ hbefore)
  cases result with
  | ok place => exact .inr (hsettle h)
  | error fault =>
      obtain ⟨settled, hsettled, hstate⟩ := mem_cancel.mp h
      split at hstate
      next => exact .inl hstate
      next => exact .inr (hsettle (hstate ▸ hsettled))

/-- An asset that is fetched after the end of one asset was fetched before, or it is the
    one that ended. -/
theorem mem_finish {mediaId id place : String} {result : Except Fault String}
    {gathering : Gathering} (h : (id, .finished place) ∈ (gathering.finish mediaId result).tasks) :
    (id, .finished place) ∈ gathering.tasks ∨ id = mediaId ∧ result = .ok place := by
  rcases mem_finish_cases h with hcancelled | hbefore | ⟨rfl, hstate⟩
  · cases hcancelled
  · exact .inl hbefore
  · exact .inr ⟨rfl, TaskState.ofResult_eq_finished.mp hstate.symm⟩

theorem exists_of_failure? {gathering : Gathering} {fault : Fault}
    (h : gathering.failure? = some fault) : ∃ id, (id, .failed fault) ∈ gathering.tasks := by
  obtain ⟨⟨id, state⟩, hmem, hstate⟩ := List.exists_of_findSome?_eq_some h
  cases state with
  | failed other => exact ⟨id, Option.some.inj hstate ▸ hmem⟩
  | running => cases hstate
  | finished place => cases hstate
  | cancelled => cases hstate

/-- An asset that comes is no failure. -/
theorem failure?_finish_ok {gathering : Gathering} (h : gathering.failure? = none)
    (mediaId place : String) : (gathering.finish mediaId (.ok place)).failure? = none := by
  rw [failure?_eq_none] at h ⊢
  intro id fault hmem
  obtain ⟨before, hbefore, hstate⟩ := mem_settle.mp hmem
  split at hstate
  · cases hstate
  · exact h id fault (hstate ▸ hbefore)

/-- The first failure is the outcome, and the other assets are not waited for. -/
theorem outcome?_finish_error {gathering : Gathering} (h : gathering.failure? = none)
    {mediaId : String} (hawaits : gathering.awaits mediaId) (fault : Fault) :
    (gathering.finish mediaId (.error fault)).outcome? = some (.error fault) := by
  have hidle : (gathering.finish mediaId (.error fault)).isRunning = false := isRunning_cancel _
  have hfailed : (gathering.finish mediaId (.error fault)).failure? = some fault := by
    have hkept := mem_finish_error hawaits fault
    cases hfound : (gathering.finish mediaId (.error fault)).failure? with
    | none => exact absurd hkept (failure?_eq_none.mp hfound mediaId fault)
    | some other =>
        -- nothing had failed before, so there is only one failure to find
        obtain ⟨id, hmem⟩ := exists_of_failure? hfound
        obtain ⟨settled, hsettled, hstate⟩ := mem_cancel.mp hmem
        split at hstate
        · cases hstate
        · obtain ⟨before, hbefore, hwas⟩ := mem_settle.mp (hstate ▸ hsettled)
          split at hwas
          · rw [TaskState.failed.inj hwas]
          · exact absurd (hwas ▸ hbefore) (failure?_eq_none.mp h id other)
  rw [outcome?, hidle, hfailed]
  rfl

theorem failure?_start (items : List Wanted) : (start items).failure? = none := by
  rw [failure?_eq_none]
  intro id fault hmem
  simp [start] at hmem

/-- The other assets are still awaited after one has come. -/
theorem awaits_finish_ok {gathering : Gathering} {mediaId other : String} (hne : other ≠ mediaId)
    (h : gathering.awaits other) (place : String) :
    (gathering.finish mediaId (.ok place)).awaits other :=
  awaits_iff.mpr (mem_settle.mpr ⟨.running, awaits_iff.mp h, by simp [hne]⟩)

/-- Without a failure, the outcome is where all assets are, once there is one. -/
theorem outcome?_of_failure?_eq_none {gathering : Gathering} (h : gathering.failure? = none) :
    gathering.outcome? = if gathering.isRunning then none else some (.ok gathering.places) := by
  rw [outcome?, h]

theorem mem_places {entry : String × String} {gathering : Gathering} :
    entry ∈ gathering.places ↔ (entry.1, .finished entry.2) ∈ gathering.tasks := by
  simp only [places, List.mem_filterMap, Prod.exists]
  constructor
  · rintro ⟨id, state, hmem, hplace⟩
    cases state with
    | finished place => exact Option.some.inj hplace ▸ hmem
    | running => cases hplace
    | failed fault => cases hplace
    | cancelled => cases hplace
  · intro hmem
    exact ⟨entry.1, .finished entry.2, hmem, rfl⟩

/-! ## Success -/

/-- The locators that the fetching of `items` may come to. -/
def Fetched (items : List Wanted) (locators : Locators) : Prop :=
  ∃ gathering, Passes items gathering ∧ gathering.outcome? = some (.ok locators)

theorem outcome?_eq_ok {gathering : Gathering} {locators : Locators} :
    gathering.outcome? = some (.ok locators) ↔
      gathering.isRunning = false ∧ gathering.failure? = none ∧ gathering.places = locators := by
  unfold outcome?
  cases gathering.isRunning with
  | true => simp
  | false => cases gathering.failure? <;> simp

theorem failure?_of_outcome? {gathering : Gathering} {fault : Fault}
    (h : gathering.outcome? = some (.error fault)) : gathering.failure? = some fault := by
  unfold outcome? at h
  split at h
  next => cases h
  next =>
    split at h
    next raised hraised =>
      cases h
      exact hraised
    next => cases h

theorem exists_outcome {gathering : Gathering} (h : gathering.isRunning = false) :
    ∃ outcome, gathering.outcome? = some outcome := by
  unfold outcome?
  rw [h]
  cases gathering.failure? with
  | none => exact ⟨_, rfl⟩
  | some fault => exact ⟨_, rfl⟩

theorem outcome?_eq_some_getD {gathering : Gathering} (h : gathering.isRunning = false)
    (default : Except Fault Locators) :
    gathering.outcome? = some (gathering.outcome?.getD default) := by
  obtain ⟨outcome, houtcome⟩ := exists_outcome h
  rw [houtcome, Option.getD_some]

/-- Every asset of a successful fetching is fetched. -/
theorem exists_finished {items : List Wanted} {gathering : Gathering} {locators : Locators}
    (h : Passes items gathering) (houtcome : gathering.outcome? = some (.ok locators))
    {id : String} {state : TaskState} (hmem : (id, state) ∈ gathering.tasks) :
    ∃ place, state = .finished place := by
  obtain ⟨hrunning, hfailure, -⟩ := outcome?_eq_ok.mp houtcome
  cases state with
  | finished place => exact ⟨place, rfl⟩
  | running => exact absurd hmem (isRunning_eq_false.mp hrunning id)
  | failed fault => exact absurd hmem (failure?_eq_none.mp hfailure id fault)
  | cancelled => exact absurd hmem (onlyFailuresCancel_of_passes h hfailure id)

theorem map_fst_places {gathering : Gathering}
    (h : ∀ id state, (id, state) ∈ gathering.tasks → ∃ place, state = .finished place) :
    gathering.places.map Prod.fst = gathering.tasks.map Prod.fst := by
  obtain ⟨tasks⟩ := gathering
  simp only [places]
  induction tasks with
  | nil => rfl
  | cons task rest ih =>
      obtain ⟨id, state⟩ := task
      obtain ⟨place, rfl⟩ := h id state List.mem_cons_self
      have hrest := ih fun other state hmem => h other state (List.mem_cons_of_mem _ hmem)
      simp only [List.filterMap_cons, List.map_cons, hrest]

/-- The locators name the media that were wanted, in the same order. -/
theorem Fetched.map_fst {items : List Wanted} {locators : Locators} (h : Fetched items locators) :
    locators.map Prod.fst = items.map Wanted.mediaId := by
  obtain ⟨gathering, hpasses, houtcome⟩ := h
  obtain ⟨-, -, rfl⟩ := outcome?_eq_ok.mp houtcome
  have hall := map_fst_places fun id state hmem => exists_finished hpasses houtcome hmem
  rw [hall, map_fst_of_passes hpasses]

/-! ## Any places -/

/-- The assets of `done` are fetched to places, those of `left` are still on their way. -/
def partway (place : String → String) (done left : List Wanted) : Gathering :=
  ⟨(done.map fun item => (item.mediaId, .finished (place item.mediaId))) ++
    left.map fun item => (item.mediaId, .running)⟩

theorem finish_partway {place : String → String} {done rest : List Wanted} {item : Wanted}
    (h : item.mediaId ∉ rest.map Wanted.mediaId) :
    (partway place done (item :: rest)).finish item.mediaId (.ok (place item.mediaId)) =
      partway place (done ++ [item]) rest := by
  have hrest : (rest.map fun other => (other.mediaId,
      if other.mediaId = item.mediaId then .finished (place item.mediaId) else .running)) =
        rest.map fun other => (other.mediaId, TaskState.running) := by
    refine List.map_congr_left fun other hother => ?_
    rw [if_neg fun heq => h (List.mem_map.mpr ⟨other, hother, heq⟩)]
  simp [finish, settle, partway, Function.comp_def, hrest]

theorem passes_partway {items : List Wanted} {place : String → String} {done left : List Wanted}
    (h : Passes items (partway place done left)) (hnodup : (left.map Wanted.mediaId).Nodup) :
    Passes items (partway place (done ++ left) []) := by
  induction left generalizing done with
  | nil => rwa [List.append_nil]
  | cons item rest ih =>
      obtain ⟨hhead, hrest⟩ := List.nodup_cons.mp hnodup
      have hawaits : (partway place done (item :: rest)).awaits item.mediaId :=
        awaits_iff.mpr (by simp [partway])
      have hnext := Passes.finish item.mediaId (.ok (place item.mediaId)) h hawaits
      rw [finish_partway hhead] at hnext
      have hall := ih hnext hrest
      rwa [List.append_assoc] at hall

/-- Fetching may put the assets at any places. -/
theorem fetched_at (place : String → String) {items : List Wanted}
    (h : (items.map Wanted.mediaId).Nodup) :
    Fetched items (items.map fun item => (item.mediaId, place item.mediaId)) := by
  have hstart : Passes items (partway place [] items) := .start
  have hpasses : Passes items (partway place items []) := passes_partway hstart h
  refine ⟨_, hpasses, outcome?_eq_ok.mpr ⟨?_, ?_, ?_⟩⟩
  · simp [isRunning, partway]
  · simp [failure?, partway]
  · simp [places, partway, List.filterMap_map]

end Gathering

end Montage.Asset

namespace Montage.Web

open Montage.Asset Montage.File Montage.Number Montage.Timeline

/-! ## Fetching in virtual time -/

/-- The transfers that are still to end are those of the assets that are still being
    fetched. -/
structure Outstanding (transfers : List Transfer) (gathering : Gathering) : Prop where
  nodup : (transfers.map fun transfer => transfer.item.mediaId).Nodup
  awaited : gathering.isRunning → ∀ transfer ∈ transfers, gathering.awaits transfer.item.mediaId
  listed : ∀ id, gathering.awaits id → id ∈ transfers.map fun transfer => transfer.item.mediaId

theorem Outstanding.finish {transfer : Transfer} {rest : List Transfer} {gathering : Gathering}
    (h : Outstanding (transfer :: rest) gathering) (hrunning : gathering.isRunning)
    (result : Except Fault String) :
    Outstanding rest (gathering.finish transfer.item.mediaId result) := by
  obtain ⟨hhead, hrest⟩ := List.nodup_cons.mp h.nodup
  cases result with
  -- a failure leaves nothing to be fetched
  | error fault =>
      have hstopped : (gathering.finish transfer.item.mediaId (.error fault)).isRunning = false :=
        Gathering.isRunning_cancel _
      refine ⟨hrest, ?_, ?_⟩
      · rw [hstopped]
        simp
      · intro id hawaits
        exact absurd (Gathering.awaits_iff.mp hawaits) (Gathering.isRunning_eq_false.mp hstopped id)
  | ok place =>
      refine ⟨hrest, ?_, ?_⟩
      -- the others have other ids, so they go on
      · intro _ other hother
        have hne : other.item.mediaId ≠ transfer.item.mediaId := fun heq =>
          hhead (List.mem_map.mpr ⟨other, hother, heq⟩)
        have hbefore := h.awaited hrunning other (List.mem_cons_of_mem transfer hother)
        exact Gathering.awaits_finish_ok hne hbefore place
      · intro id hawaits
        obtain ⟨before, hmem, hstate⟩ := Gathering.mem_settle.mp (Gathering.awaits_iff.mp hawaits)
        split at hstate
        · cases hstate
        · rename_i hne
          subst hstate
          rcases List.mem_cons.mp (h.listed id (Gathering.awaits_iff.mpr hmem)) with heq | hmem
          · exact absurd ⟨heq, rfl⟩ hne
          · exact hmem

theorem gather_passes {items : List Wanted} {transfers : List Transfer} {gathering : Gathering}
    (hpasses : gathering.Passes items) (h : Outstanding transfers gathering)
    (directory : Path) (time : Binary64) (tree : Tree) :
    let last := ((gather directory transfers gathering time).run tree).1.1
    last.Passes items ∧ last.isRunning = false := by
  induction transfers generalizing gathering time tree with
  | nil =>
      refine ⟨hpasses, Gathering.isRunning_eq_false.mpr fun id hmem => ?_⟩
      exact absurd (h.listed id (Gathering.awaits_iff.mpr hmem)) List.not_mem_nil
  | cons transfer rest ih =>
      cases hrunning : gathering.isRunning with
      | false =>
          simp only [gather, hrunning]
          exact ⟨hpasses, hrunning⟩
      | true =>
          have hawaits := h.awaited hrunning transfer List.mem_cons_self
          have hnext := fun result =>
            Gathering.Passes.finish transfer.item.mediaId result hpasses hawaits
          have hrest := fun result => h.finish hrunning result
          simp only [gather, hrunning]
          exact ih (hnext _) (hrest _) _ _

theorem awaits_start {document : Document} {id : String} :
    (Gathering.start (wanted document)).awaits id ↔ id ∈ document.usedMediaIds := by
  rw [Gathering.awaits_iff, ← map_mediaId_wanted]
  simp [Gathering.start]

theorem mediaIds_of_perm {transfers : List Transfer} {document : Document}
    (h : (transfers.map Transfer.item).Perm (wanted document)) :
    (transfers.map fun transfer => transfer.item.mediaId).Perm document.usedMediaIds := by
  have hmapped := h.map Wanted.mediaId
  rwa [List.map_map, map_mediaId_wanted] at hmapped

/-- At the start, transfers in any order are awaited if there is one for each asset. -/
theorem awaits_of_perm {transfers : List Transfer} {document : Document}
    (h : (transfers.map Transfer.item).Perm (wanted document)) :
    ∀ transfer ∈ transfers,
      (Gathering.start (wanted document)).awaits transfer.item.mediaId :=
  fun _ htransfer =>
    awaits_start.mpr ((mediaIds_of_perm h).mem_iff.mp (List.mem_map_of_mem htransfer))

theorem outstanding_of_perm {transfers : List Transfer} {document : Document}
    (h : (transfers.map Transfer.item).Perm (wanted document)) :
    Outstanding transfers (.start (wanted document)) where
  nodup := (mediaIds_of_perm h).nodup_iff.mpr (nodup_usedMediaIds document)
  awaited _ := awaits_of_perm h
  listed _ hid := (mediaIds_of_perm h).mem_iff.mpr (awaits_start.mp hid)

theorem item_transfer (table : Table) (follows : Bool) (item : Wanted) :
    (transfer table follows item).item = item := by
  unfold transfer
  split <;> rfl

theorem map_item_inOrder (table : Table) (follows : Bool) (document : Document) :
    ((inOrder ((wanted document).map (transfer table follows))).map Transfer.item).Perm
      (wanted document) := by
  refine ((List.mergeSort_perm _ _).map _).trans ?_
  simp [Function.comp_def, item_transfer]

/-- A fetching in virtual time has nothing to fetch, or it cannot make its directory, or it
    gathers its assets there. -/
theorem materialize_cases (table : Table) (follows : Bool) (directory : Path)
    (document : Document) (tree : Tree) :
    let last := (materialize table follows directory document).run tree
    (wanted document = [] ∧ last.1.outcome = .ok [] ∧ last.2 = tree) ∨
    (wanted document ≠ [] ∧ ∃ fault,
      (Call.makeDirectories directory).run.run tree = (.error fault, last.2) ∧
      last.1.outcome = .error fault) ∨
    (wanted document ≠ [] ∧ ∃ files,
      (Call.makeDirectories directory).run.run tree = (.ok (), files) ∧
      let gathered := (gather directory (inOrder ((wanted document).map (transfer table follows)))
        (.start (wanted document)) .zero).run files
      gathered.1.1.outcome? = some last.1.outcome ∧ last.2 = gathered.2) := by
  have houtstanding := outstanding_of_perm (map_item_inOrder table follows document)
  cases hitems : wanted document with
  | nil =>
      simp only [materialize, hitems]
      exact .inl ⟨trivial, rfl, rfl⟩
  | cons item rest =>
      rw [hitems] at houtstanding
      simp only [materialize, hitems, List.isEmpty_cons, Bool.false_eq_true, if_false,
        StateT.run_bind]
      rcases hmade : (Call.makeDirectories directory).run.run tree with ⟨made, files⟩
      cases made with
      | error fault => exact .inr (.inl ⟨List.cons_ne_nil item rest, fault, rfl, rfl⟩)
      | ok _ =>
          -- everything has ended, so the default is not taken
          obtain ⟨-, hended⟩ := gather_passes .start houtstanding directory .zero files
          exact .inr (.inr ⟨List.cons_ne_nil item rest, files, rfl,
            Gathering.outcome?_eq_some_getD hended (.ok []), rfl⟩)

/-- What a fetching in virtual time comes to is what the fetching may come to. -/
theorem fetched_of_materialize {table : Table} {follows : Bool} {directory : Path}
    {document : Document} {tree : Tree} {locators : Locators}
    (h : ((materialize table follows directory document).run tree).1.outcome = .ok locators) :
    Gathering.Fetched (wanted document) locators := by
  rcases materialize_cases table follows directory document tree with
    ⟨hnone, hempty, -⟩ | ⟨-, fault, -, hfault⟩ | ⟨-, files, -, hgathered, -⟩
  · rw [hempty] at h
    rw [hnone, ← Except.ok.inj h]
    exact ⟨.start [], .start, rfl⟩
  · rw [hfault] at h
    cases h
  · have houtstanding := outstanding_of_perm (map_item_inOrder table follows document)
    obtain ⟨hpasses, -⟩ := gather_passes .start houtstanding directory .zero files
    exact ⟨_, hpasses, h ▸ hgathered⟩

end Montage.Web
