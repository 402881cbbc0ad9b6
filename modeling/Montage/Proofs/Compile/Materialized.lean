/-
  Montage.Proofs.Compile.Materialized

  Fetching and compiling agree on the media of a timeline.  Once the media are fetched
  and the document names the fetched files, the engine reads these files, one input for
  each, and no place that the document named.
-/
import Montage.Proofs.Asset.Separate
import Montage.Proofs.Compile.Inputs
import Montage.Proofs.Compile.Relocation

namespace Montage.Compile

open Montage.Asset Montage.File Montage.Timeline Montage.Web

/-! ## The same media -/

/-- A source as a medium to be fetched. -/
def Source.wanted (source : Source) : Wanted :=
  ⟨source.mediaId, source.locator⟩

/-- What is fetched is what is compiled, in the same order and from the same places. -/
theorem wanted_eq_sources (document : Document) :
    wanted document = (select document).sources.map Source.wanted := by
  let want (id : String) : Option Wanted :=
    ((document.mediaItems.find? id).bind MediaAsset.locator?).map (Wanted.mk id)
  have hused : wanted document = document.usedMediaIds.filterMap want := by
    rw [Document.usedMediaIds, List.filterMap_filter]
    refine List.filterMap_congr fun id _ => ?_
    -- an id without a place would give nothing anyway
    cases hplace : (document.mediaItems.find? id).bind MediaAsset.locator? with
    | none => simp only [want, hplace, Option.map_none, ite_self]
    | some place =>
        have hkeep : document.mediaItems.hasPlace id = true := by
          simp only [MediaItems.hasPlace, hplace, Option.isSome_some]
        simp only [want, hplace, hkeep, if_true]
  have hsources : ∀ source ∈ (select document).sources,
      want source.mediaId = some source.wanted := by
    intro source hmem
    obtain ⟨hfind, hplace⟩ := place_of_mem_sources hmem
    simp [want, hfind, hplace, Source.wanted]
  rw [hused, ← map_mediaId_sources, List.filterMap_map, ← List.filterMap_eq_map]
  exact List.filterMap_congr hsources

/-! ## Fetched media -/

section Fetched

variable {document : Document} {locators : Locators}

theorem map_fst_of_fetched (h : Gathering.Fetched (wanted document) locators) :
    locators.map Prod.fst = document.usedMediaIds := by
  rw [h.map_fst, map_mediaId_wanted]

theorem fits_of_fetched (h : Gathering.Fetched (wanted document) locators)
    (hplaces : ∀ entry ∈ locators, entry.2 ≠ "") : Fits locators document := by
  refine fits_of_forall fun entry hentry => ⟨?_, hplaces entry hentry⟩
  have hid : entry.1 ∈ locators.map Prod.fst := List.mem_map_of_mem hentry
  rw [map_fst_of_fetched h] at hid
  exact (List.mem_filter.mp hid).2

/-- Entries are found by their ids, since these are distinct. -/
theorem find?_of_mem {entry : String × String} (h : Gathering.Fetched (wanted document) locators)
    (hmem : entry ∈ locators) : locators.find? entry.1 = some entry.2 :=
  Locators.find?_of_mem (map_fst_of_fetched h ▸ nodup_usedMediaIds document) hmem

/-- The place of a source is now that of its file. -/
theorem find?_mediaId {source : Source} (h : Gathering.Fetched (wanted document) locators)
    (hmem : source ∈ (select document).sources) :
    locators.find? source.mediaId = some (source.relocate locators).locator := by
  have hid : source.mediaId ∈ locators.map Prod.fst := by
    rw [map_fst_of_fetched h, ← map_mediaId_sources]
    exact List.mem_map_of_mem hmem
  obtain ⟨entry, hentry, heq⟩ := List.mem_map.mp hid
  have hfind := find?_of_mem h hentry
  rw [heq] at hfind
  simp only [Source.relocate, hfind, Option.getD_some]

/-- The places of the sources are those of all the files. -/
theorem map_locator_sources (h : Gathering.Fetched (wanted document) locators) :
    (((select document).sources.map (Source.relocate locators)).map Source.input).map
      Input.locator = locators.map Prod.snd := by
  have hsome : ((select document).sources.map fun source =>
      some (source.relocate locators).locator) = locators.map fun entry => some entry.2 := by
    calc ((select document).sources.map fun source => some (source.relocate locators).locator)
        = (select document).sources.map fun source => locators.find? source.mediaId :=
          List.map_congr_left fun source hsource => (find?_mediaId h hsource).symm
      _ = (locators.map Prod.fst).map locators.find? := by
          rw [map_fst_of_fetched h, ← map_mediaId_sources, List.map_map]
          rfl
      _ = locators.map fun entry => some entry.2 := by
          rw [List.map_map]
          exact List.map_congr_left fun entry hentry => find?_of_mem h hentry
  refine List.map_injective_iff.mpr (fun _ _ => Option.some.inj) ?_
  rw [List.map_map, List.map_map, List.map_map, List.map_map]
  exact hsome

end Fetched

/-- The engine reads what was fetched: between the base surface and the silence, which it
    makes itself, there is one input for each medium, and its place is that of the file. -/
structure ReadsFetched (options : Options) (document : Document) (locators : Locators)
    (compilation : Compilation) : Prop where
  /-- The files are those of the media that were to be fetched. -/
  named : locators.map Prod.fst = (wanted document).map Wanted.mediaId
  /-- One input for each medium, in the order in which the media are used; every file is
      read, and nothing else. -/
  inputs : ∃ files,
    compilation.inputs = lavfiColor options document :: files ++
      (if compilation.audio = none then [lavfiSilence options document] else []) ∧
    List.Forall₂ (fun item file => locators.find? item.mediaId = some file.locator)
      (wanted document) files ∧
    files.map Input.locator = locators.map Prod.snd

theorem readsFetched {options : Options} {document : Document} {locators : Locators}
    {compilation : Compilation} (hfetched : Gathering.Fetched (wanted document) locators)
    (hplaces : ∀ entry ∈ locators, entry.2 ≠ "")
    (h : compile options (document.withLocators locators) = .ok compilation) :
    ReadsFetched options document locators compilation := by
  have hfits := fits_of_fetched hfetched hplaces
  obtain ⟨audio, graph, -, rfl⟩ := compile_eq_ok.mp h
  refine ⟨hfetched.map_fst,
    ((select document).sources.map (Source.relocate locators)).map Source.input, ?_, ?_, ?_⟩
  · simp only [assembled, select_withLocators hfits, inputs]
    cases audio with
    | none => rfl
    | some label => rfl
  · rw [wanted_eq_sources, List.map_map, List.forall₂_map_left_iff, List.forall₂_map_right_iff]
    exact List.forall₂_same.mpr fun source hsource => find?_mediaId hfetched hsource
  · exact map_locator_sources hfetched

/-- What becomes of a document once its media have been fetched: it compiles exactly if it
    compiles as it is, and the engine then reads what was fetched. -/
structure ReadsOnlyFetched (document : Document) (locators : Locators) : Prop where
  compiles : ∀ options,
    (∃ compilation, compile options (document.withLocators locators) = .ok compilation) ↔
      ∃ compilation, compile options document = .ok compilation
  reads : ∀ options compilation,
    compile options (document.withLocators locators) = .ok compilation →
      ReadsFetched options document locators compilation

theorem readsOnlyFetched {document : Document} {locators : Locators}
    (hfetched : Gathering.Fetched (wanted document) locators)
    (hplaces : ∀ entry ∈ locators, entry.2 ≠ "") : ReadsOnlyFetched document locators where
  compiles _ := exists_compile_withLocators (fits_of_fetched hfetched hplaces)
  reads _ _ h := readsFetched hfetched hplaces h

/-- Fetching and compiling agree.  They use the same media in the same order; and after a
    fetching that succeeds, with whatever places that say something, the engine reads these and
    nothing else.  In virtual time, this is so for every fetching that succeeds. -/
theorem compile_fetched (document : Document) :
    wanted document = (select document).sources.map Source.wanted ∧
    (∀ locators, Gathering.Fetched (wanted document) locators →
      (∀ entry ∈ locators, entry.2 ≠ "") → ReadsOnlyFetched document locators) ∧
    ∀ table follows directory tree locators,
      ((materialize table follows directory document).run tree).1.outcome = .ok locators →
        ReadsOnlyFetched document locators := by
  refine ⟨wanted_eq_sources document, fun _ hfetched hplaces => readsOnlyFetched hfetched hplaces,
    ?_⟩
  intro table follows directory tree locators h
  exact readsOnlyFetched (fetched_of_materialize h) (ne_empty_of_materialize h)

/-- Media with any places, and two images that are in the urls themselves. -/
theorem compile_fetched_sampleDocument :
    (∃ locators, Gathering.Fetched (wanted sampleDocument) locators ∧
      (∀ entry ∈ locators, entry.2 ≠ "") ∧
      ∃ compilation, compile {} (sampleDocument.withLocators locators) = .ok compilation ∧
        ReadsFetched {} sampleDocument locators compilation) ∧
    ((materialize [] true sampleDirectory sampleAlike).run {}).1.outcome = .ok samplePlaces ∧
      ∃ compilation, compile {} (sampleAlike.withLocators samplePlaces) = .ok compilation ∧
        ReadsFetched {} sampleAlike samplePlaces compilation := by
  constructor
  · have hnodup : ((wanted sampleDocument).map Wanted.mediaId).Nodup :=
      map_mediaId_wanted sampleDocument ▸ nodup_usedMediaIds sampleDocument
    have hfetched := Gathering.fetched_at (fun id => "/scratch/" ++ id) hnodup
    have hplaces : ∀ entry ∈ (wanted sampleDocument).map fun item =>
        (item.mediaId, "/scratch/" ++ item.mediaId), entry.2 ≠ "" := by
      simp
    have hagrees := (compile_fetched sampleDocument).2.1 _ hfetched hplaces
    obtain ⟨compilation, h⟩ := (hagrees.compiles {}).mpr exists_compile_sampleDocument
    exact ⟨_, hfetched, hplaces, compilation, h, hagrees.reads {} compilation h⟩
  · have hmaterialized := outcome_materialize_sampleAlike
    have hagrees :=
      (compile_fetched sampleAlike).2.2 [] true sampleDirectory {} samplePlaces hmaterialized
    obtain ⟨compilation, h⟩ :=
      (hagrees.compiles {}).mpr (exists_compile_of_hasDelays {} (by decide +kernel))
    exact ⟨hmaterialized, compilation, h, hagrees.reads {} compilation h⟩

end Montage.Compile
