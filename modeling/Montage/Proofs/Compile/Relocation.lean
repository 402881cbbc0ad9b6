/-
  Montage.Proofs.Compile.Relocation

  Media at other places.  Locators that name media with a place, and give them another
  one, change the places of the sources and nothing else of what is selected; and of what is
  compiled, they change where the inputs of these media are.
-/
import Montage.Proofs.Compile.Alike

namespace Montage.Compile

open Montage.Filter (Graph)
open Montage.Timeline

/-! ## Moving what is selected -/

def Source.relocate (locators : Locators) (source : Source) : Source :=
  let place? := locators.find? source.mediaId
  { source with asset := source.asset.movedTo place?, locator := place?.getD source.locator }

def Take.relocate (locators : Locators) (take : Take) : Take :=
  { take with source := take.source.relocate locators }

def Clip.relocate (locators : Locators) (clip : Clip) : Clip :=
  { clip with asset := clip.asset.movedTo (locators.find? clip.element.mediaId) }

@[simp] theorem Clip.isAudible_relocate (locators : Locators) (clip : Clip) :
    (clip.relocate locators).isAudible = clip.isAudible := by
  have hkind : (clip.relocate locators).asset.kind = clip.asset.kind :=
    MediaAsset.kind_movedTo _ clip.asset
  rw [Clip.isAudible, Clip.isAudible, hkind]
  rfl

/-- The same clip, read from another place. -/
theorem Clip.alike_relocate (locators : Locators) (clip : Clip) :
    (clip.relocate locators).Alike clip where
  element := .refl _
  trackKind := rfl
  kind := MediaAsset.kind_movedTo _ _
  width := MediaAsset.width_movedTo _ _
  height := MediaAsset.height_movedTo _ _
  input := rfl

/-- Locators for media that have a place. -/
structure Fits (locators : Locators) (document : Document) : Prop where
  known : ∀ id place, locators.find? id = some place → document.mediaItems.hasPlace id
  placed : ∀ id place, locators.find? id = some place → place ≠ ""

theorem fits_of_forall {locators : Locators} {document : Document}
    (h : ∀ entry ∈ locators, document.mediaItems.hasPlace entry.1 = true ∧ entry.2 ≠ "") :
    Fits locators document where
  known _ _ hfind := (h _ (mem_of_find?_eq_some hfind)).1
  placed _ _ hfind := (h _ (mem_of_find?_eq_some hfind)).2

section Moved

variable {locators : Locators} {document : Document}

/-! ## Sources -/

theorem source?_withLocators (h : Fits locators document) (element : MediaElement) :
    source? (document.withLocators locators).mediaItems element =
      (source? document.mediaItems element).map (Source.relocate locators) := by
  cases hfind : document.mediaItems.find? element.mediaId with
  | none => simp [source?, find?_withLocators, hfind, Except.map]
  | some asset =>
      cases hmoved : locators.find? element.mediaId with
      | none =>
          have hsame : asset.movedTo none = asset := rfl
          cases hplace : asset.locator? <;>
            simp [source?, find?_withLocators, hfind, hmoved, hsame, hplace, Except.map,
              Source.relocate]
      | some place =>
          -- the medium had a place before, so the element was not left out
          obtain ⟨source, hsource⟩ := hasPlace_eq_true_iff.mp (h.known _ _ hmoved)
          obtain ⟨hid, hasset, hbefore⟩ := source?_eq_ok.mp hsource
          have hplace : (asset.movedTo (some place)).locator? = some place :=
            locator?_eq_some.mpr ⟨rfl, h.placed _ _ hmoved⟩
          rw [hsource]
          obtain rfl : asset = source.asset := Option.some.inj (hfind.symm.trans hasset)
          simp [source?, find?_withLocators, hfind, hmoved, hplace, Except.map, Source.relocate,
            hid]

theorem map_mediaId_relocate (sources : List Source) :
    (sources.map (Source.relocate locators)).map Source.mediaId =
      sources.map Source.mediaId := by
  rw [List.map_map]
  rfl

theorem distinctSources_relocate (sources : List Source) :
    distinctSources (sources.map (Source.relocate locators)) =
      (distinctSources sources).map (Source.relocate locators) := by
  induction sources with
  | nil => rfl
  | cons source rest ih =>
      rw [List.map_cons, distinctSources, ih, distinctSources, List.map_cons, List.filter_map]
      rfl

/-! ## Takes -/

theorem take?_withLocators (h : Fits locators document) (visit : Visit) :
    visit.take? (document.withLocators locators).mediaItems =
      (visit.take? document.mediaItems).map (Take.relocate locators) := by
  obtain ⟨track, element⟩ := visit
  cases element with
  | text element => rfl
  | media element =>
      simp only [Visit.take?, source?_withLocators h]
      cases source? document.mediaItems element <;> rfl

theorem takes_withLocators (h : Fits locators document) (all : List Visit) :
    takes (document.withLocators locators).mediaItems all =
      (takes document.mediaItems all).map (Take.relocate locators) := by
  rw [takes, takes, List.map_filterMap]
  exact List.filterMap_congr fun visit _ => take?_withLocators h visit

theorem map_source_relocate (all : List Take) :
    (all.map (Take.relocate locators)).map Take.source =
      (all.map Take.source).map (Source.relocate locators) := by
  rw [List.map_map, List.map_map]
  rfl

theorem clip_relocate {items : MediaItems} {all : List Visit} {take : Take}
    (h : take ∈ takes items all) (sources : List Source) :
    (take.relocate locators).clip (sources.map (Source.relocate locators)) =
      (take.clip sources).relocate locators := by
  obtain ⟨-, -, -, -, hsource⟩ := mem_takes.mp h
  have hid : take.source.mediaId = take.element.mediaId := (source?_eq_ok.mp hsource).1
  simp only [Take.clip, Take.relocate, Clip.relocate, inputNumber, map_mediaId_relocate,
    Source.relocate, hid]

theorem outcomes_withLocators (h : Fits locators document) (all : List Visit) :
    outcomes (document.withLocators locators).mediaItems all =
      outcomes document.mediaItems all := by
  refine List.map_congr_left fun visit _ => ?_
  cases visit.element with
  | text element => rfl
  | media element =>
      rw [verdict, verdict, source?_withLocators h]
      cases source? document.mediaItems element <;> rfl

/-! ## Selections -/

/-- Only the places of the media that are selected change. -/
theorem select_withLocators (h : Fits locators document) :
    select (document.withLocators locators) =
      { select document with
        sources := (select document).sources.map (Source.relocate locators)
        clips := (select document).clips.map (Clip.relocate locators) } := by
  have htakes := takes_withLocators h (visits document.tracks)
  have hsources : (select (document.withLocators locators)).sources =
      (select document).sources.map (Source.relocate locators) := by
    show distinctSources ((takes (document.withLocators locators).mediaItems
      (visits document.tracks)).map Take.source) = _
    rw [htakes, map_source_relocate, distinctSources_relocate]
    rfl
  have hclips : (select (document.withLocators locators)).clips =
      (select document).clips.map (Clip.relocate locators) := by
    show (takes (document.withLocators locators).mediaItems (visits document.tracks)).map
      (Take.clip (select (document.withLocators locators)).sources) = _
    rw [htakes, hsources, List.map_map]
    show _ = ((takes document.mediaItems (visits document.tracks)).map
      (Take.clip (select document).sources)).map _
    rw [List.map_map]
    exact List.map_congr_left fun take htake => clip_relocate htake _
  have houtcomes := outcomes_withLocators h (visits document.tracks)
  show Selection.mk _ _ _ _ = Selection.mk _ _ _ _
  rw [Selection.mk.injEq]
  exact ⟨hsources, hclips, rfl, houtcomes⟩

/-- Moving media does not make a compilation fail, nor succeed. -/
theorem exists_compile_withLocators {options : Options} (h : Fits locators document) :
    (∃ compilation, compile options (document.withLocators locators) = .ok compilation) ↔
      ∃ compilation, compile options document = .ok compilation := by
  have haudible : Clip.isAudible ∘ Clip.relocate locators = Clip.isAudible :=
    funext (Clip.isAudible_relocate locators)
  rw [exists_compile_eq_ok_iff, exists_compile_eq_ok_iff, select_withLocators h, List.filter_map,
    haudible, List.forall_mem_map]
  rfl

/-! ## Compilations -/

/-- An input that is read from where locators put its medium, if they do. -/
def Input.relocate (locators : Locators) (id : String) (input : Input) : Input :=
  { input with locator := (locators.find? id).getD input.locator }

theorem input_relocate (source : Source) :
    (source.relocate locators).input = source.input.relocate locators source.mediaId := by
  rw [Source.input, Source.input, Source.relocate, MediaAsset.kind_movedTo]
  rfl

theorem map_input_relocate (sources : List Source) :
    (sources.map (Source.relocate locators)).map Source.input =
      List.zipWith (Input.relocate locators) (sources.map Source.mediaId)
        (sources.map Source.input) := by
  rw [List.zipWith_map, List.zipWith_self, List.map_map]
  exact List.map_congr_left fun source _ => input_relocate source

/-- A document in which some media are at other places, and everything else as before. -/
structure KeepsRest (locators : Locators) (document moved : Document) : Prop where
  project : moved.project = document.project
  tracks : moved.tracks = document.tracks
  /-- The same ids in the same order; media that the locators do not name are as they were. -/
  media : List.Forall₂
    (fun item entry => entry.1 = item.1 ∧ entry.2 = item.2.movedTo (locators.find? item.1))
    document.mediaItems moved.mediaItems

theorem keepsRest_withLocators (locators : Locators) (document : Document) :
    KeepsRest locators document (document.withLocators locators) := by
  refine ⟨rfl, rfl, ?_⟩
  rw [Document.withLocators, List.forall₂_map_right_iff]
  refine List.forall₂_same.mpr fun item _ => ?_
  cases hfind : locators.find? item.1 <;> simp [hfind, MediaAsset.movedTo]

/-- A compilation that reads some media from other places, and is otherwise the same. -/
structure Relocates (options : Options) (locators : Locators) (document : Document)
    (before after : Compilation) : Prop where
  graph : after.graph = before.graph
  video : after.video = before.video
  audio : after.audio = before.audio
  outcomes : after.outcomes = before.outcomes
  warnings : after.warnings = before.warnings
  /-- The same inputs in the same order with the same options; those of media that the locators
      name are read from there. -/
  inputs : ∃ files,
    before.inputs = baseInput (Frame.of document options) :: files ++
      (if before.audio = none then [silenceInput (Frame.of document options)] else []) ∧
    files.length = document.usedMediaIds.length ∧
    after.inputs = baseInput (Frame.of document options) ::
      List.zipWith (Input.relocate locators) document.usedMediaIds files ++
      (if before.audio = none then [silenceInput (Frame.of document options)] else [])
  /-- What follows the inputs in the arguments is the same. -/
  arguments : ∃ rest,
    before.arguments = before.inputs.flatMap Input.arguments ++ rest ∧
    after.arguments = after.inputs.flatMap Input.arguments ++ rest

/-- The clips of a document with moved media leave the same picture. -/
theorem picture_withLocators (h : Fits locators document) (options : Options) :
    picture options (Frame.of (document.withLocators locators) options)
      (select (document.withLocators locators)) =
        picture options (Frame.of document options) (select document) := by
  rw [select_withLocators h]
  refine picture_eq ?_ (List.forall₂_same.mpr fun caption _ => .refl caption)
  rw [List.forall₂_map_left_iff]
  exact List.forall₂_same.mpr fun clip _ => clip.alike_relocate locators

theorem sound_withLocators (h : Fits locators document) (graph : Graph) :
    sound (select (document.withLocators locators)).clips graph =
      sound (select document).clips graph := by
  rw [select_withLocators h]
  refine sound_eq ?_ graph
  rw [List.forall₂_map_left_iff]
  exact List.forall₂_same.mpr fun clip _ => clip.alike_relocate locators

theorem inputs_withLocators (h : Fits locators document) (frame : Frame)
    (audio : Option String) :
    inputs frame (select (document.withLocators locators)).sources audio =
      baseInput frame :: List.zipWith (Input.relocate locators) document.usedMediaIds
        ((select document).sources.map Source.input) ++
      (if audio = none then [silenceInput frame] else []) := by
  simp only [select_withLocators h, inputs, map_input_relocate, map_mediaId_sources]
  cases audio <;> rfl

/-- What follows the inputs in the arguments. -/
def Compilation.output (compilation : Compilation) : List String :=
  ["-filter_complex", compilation.graph.serialize] ++ compilation.streams ++ compilation.encoding

theorem Compilation.arguments_eq (compilation : Compilation) :
    compilation.arguments =
      compilation.inputs.flatMap Input.arguments ++ compilation.output := by
  rw [arguments, output, List.append_assoc, List.append_assoc, List.append_assoc]

/-- What follows the inputs depends on how many they are and on nothing else of them. -/
theorem Compilation.output_eq {before after : Compilation} (hgraph : after.graph = before.graph)
    (hvideo : after.video = before.video) (haudio : after.audio = before.audio)
    (hencoding : after.encoding = before.encoding)
    (hlength : after.inputs.length = before.inputs.length) : after.output = before.output := by
  have hstreams : after.streams = before.streams := by
    rw [streams, streams, hvideo, haudio, hlength]
  rw [output, output, hgraph, hstreams, hencoding]

/-- Media at other places are read from there, and nothing else changes: the document keeps the
rest, it compiles as well, and to the same graph, streams, outcomes, options and order. -/
theorem compile_relocates {options : Options} {compilation : Compilation}
    (hfits : Fits locators document) (h : compile options document = .ok compilation) :
    KeepsRest locators document (document.withLocators locators) ∧
      ∃ moved, compile options (document.withLocators locators) = .ok moved ∧
        Relocates options locators document compilation moved := by
  refine ⟨keepsRest_withLocators locators document, ?_⟩
  obtain ⟨audio, graph, hsound, rfl⟩ := compile_eq_ok.mp h
  have hpicture := picture_withLocators hfits options
  have hmoved : sound (select (document.withLocators locators)).clips
      (picture options (Frame.of (document.withLocators locators) options)
        (select (document.withLocators locators))).graph = .ok (audio, graph) := by
    rw [hpicture, sound_withLocators hfits, hsound]
  refine ⟨_, compile_eq_ok.mpr ⟨audio, graph, hmoved, rfl⟩, ?_⟩
  let frame := Frame.of document options
  let files := (select document).sources.map Source.input
  let before := assembled options document audio graph
  let after := assembled options (document.withLocators locators) audio graph
  have hbefore : before.inputs =
      baseInput frame :: files ++ (if audio = none then [silenceInput frame] else []) := by
    cases audio <;> rfl
  have hafter := inputs_withLocators hfits frame audio
  have hfiles : files.length = document.usedMediaIds.length := by
    rw [List.length_map, ← map_mediaId_sources, List.length_map]
  have hlength : after.inputs.length = before.inputs.length := by
    rw [hbefore]
    refine (congrArg List.length hafter).trans ?_
    simp [hfiles, files]
  have hvideo : after.video = before.video := congrArg Sheet.surface hpicture
  have houtcomes : after.outcomes = before.outcomes := by
    show (select (document.withLocators locators)).outcomes = (select document).outcomes
    rw [select_withLocators hfits]
  have houtput : after.output = before.output :=
    Compilation.output_eq rfl hvideo rfl rfl hlength
  exact ⟨rfl, hvideo, rfl, houtcomes, congrArg Sheet.warnings hpicture,
    ⟨files, hbefore, hfiles, hafter⟩, before.output, before.arguments_eq,
    houtput ▸ after.arguments_eq⟩

end Moved

/-- Locators for two of the three media with a place that the sample uses. -/
def sampleLocators : Locators :=
  [("film", "/scratch/film.mp4"), ("logo", "/scratch/logo.png")]

theorem compile_relocates_sampleDocument :
    Fits sampleLocators sampleDocument ∧
      ∃ before after, compile {} sampleDocument = .ok before ∧
        compile {} (sampleDocument.withLocators sampleLocators) = .ok after ∧
        Relocates {} sampleLocators sampleDocument before after := by
  have hfits : Fits sampleLocators sampleDocument := fits_of_forall (by decide +kernel)
  obtain ⟨before, h⟩ := exists_compile_sampleDocument
  obtain ⟨-, after, hafter, hsame⟩ := compile_relocates hfits h
  exact ⟨hfits, before, after, h, hafter, hsame⟩

end Montage.Compile
