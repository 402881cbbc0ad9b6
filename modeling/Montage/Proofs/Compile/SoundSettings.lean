/-
  Montage.Proofs.Compile.SoundSettings

  Sound settings and the picture.  The muting and the volume of an element reach nothing but the
  chains of the sounds, which are added when the picture is finished.  So documents that differ
  in these settings only have the same picture, although its labels and those of the sounds are
  numbered by one counter.
-/
import Montage.Proofs.Compile.Soundtrack

namespace Montage.Timeline

open Montage.Number

/-! ## Other sound settings -/

/-- An element with other sound settings. -/
def MediaElement.turned (muted : Bool) (volume : Binary64) (element : MediaElement) :
    MediaElement :=
  { element with muted, volume }

def Element.turned (muted : Bool) (volume : Binary64) : Element → Element
  | .media element => .media (element.turned muted volume)
  | .text element => .text element

def Track.turned (muted : Bool) (volume : Binary64) (track : Track) : Track :=
  { track with elements := track.elements.map (Element.turned muted volume) }

/-- A document whose media elements are all muted or all not, and equally loud. -/
def Document.turned (muted : Bool) (volume : Binary64) (document : Document) : Document :=
  { document with tracks := document.tracks.map (Track.turned muted volume) }

/-- Documents that differ in nothing but the muting and the volume of media elements: they are
    one document once these settings are the same everywhere. -/
def Document.SameButSound (document other : Document) : Prop :=
  document.turned false (.ofNat 1) = other.turned false (.ofNat 1)

section Turned

variable (muted : Bool) (volume : Binary64)

@[simp] theorem slot_turned (element : Element) :
    (element.turned muted volume).slot = element.slot := by
  cases element <;> rfl

@[simp] theorem endTime_turned (element : Element) :
    (element.turned muted volume).endTime = element.endTime := by
  rw [Element.endTime, Element.endTime, slot_turned]

/-- Settings that were made before are lost. -/
theorem turned_turned (document : Document) (other : Bool) (loudness : Binary64) :
    (document.turned other loudness).turned muted volume = document.turned muted volume := by
  have helement (element : Element) :
      (element.turned other loudness).turned muted volume = element.turned muted volume := by
    cases element <;> rfl
  have htrack (track : Track) :
      (track.turned other loudness).turned muted volume = track.turned muted volume := by
    simp only [Track.turned, List.map_map, Function.comp_def, helement]
  simp only [Document.turned, List.map_map, Function.comp_def, htrack]

/-- Any two settings of one document differ in sound only. -/
theorem sameButSound_turned (document : Document) :
    document.SameButSound (document.turned muted volume) :=
  (turned_turned false (.ofNat 1) document muted volume).symm

/-- Timeline order looks at start times, which are not turned. -/
theorem sortedElements_turned (track : Track) :
    (track.turned muted volume).sortedElements =
      track.sortedElements.map (Element.turned muted volume) := by
  symm
  apply List.map_mergeSort
  intro first _ second _
  rw [startsNoLater, startsNoLater, slot_turned, slot_turned]

theorem duration_turned (tracks : List Track) :
    duration (tracks.map (Track.turned muted volume)) = duration tracks := by
  have hends (track : Track) : (track.turned muted volume).elements.map Element.endTime =
      track.elements.map Element.endTime := by
    simp only [Track.turned, List.map_map, Function.comp_def, endTime_turned]
  rw [duration, duration, List.flatMap_map]
  simp only [hends]

end Turned

end Montage.Timeline

namespace Montage.Compile

open Montage.Filter (Node labels)
open Montage.Number Montage.Timeline

/-! ## Turning what is selected -/

def Visit.turned (muted : Bool) (volume : Binary64) (visit : Visit) : Visit :=
  ⟨visit.track.turned muted volume, visit.element.turned muted volume⟩

def Take.turned (muted : Bool) (volume : Binary64) (take : Take) : Take :=
  { take with element := take.element.turned muted volume }

def Clip.turned (muted : Bool) (volume : Binary64) (clip : Clip) : Clip :=
  { clip with element := clip.element.turned muted volume }

section Turned

variable (muted : Bool) (volume : Binary64)

theorem visits_turned (tracks : List Track) :
    visits (tracks.map (Track.turned muted volume)) =
      (visits tracks).map (Visit.turned muted volume) := by
  rw [visits, visits, List.flatMap_map, List.map_flatMap]
  simp only [sortedElements_turned, List.map_map]
  rfl

theorem take?_turned (items : MediaItems) (visit : Visit) :
    (visit.turned muted volume).take? items =
      (visit.take? items).map (Take.turned muted volume) := by
  obtain ⟨track, element⟩ := visit
  cases element with
  | text element => rfl
  | media element =>
      -- the medium of an element is looked up by its id
      have hsource : source? items (element.turned muted volume) = source? items element := rfl
      simp only [Visit.take?, Visit.turned, Element.turned, hsource]
      cases source? items element <;> rfl

theorem takes_turned (items : MediaItems) (all : List Visit) :
    takes items (all.map (Visit.turned muted volume)) =
      (takes items all).map (Take.turned muted volume) := by
  rw [takes, takes, List.filterMap_map, List.map_filterMap]
  apply List.filterMap_congr
  intro visit _
  exact take?_turned muted volume items visit

theorem captions_turned (all : List Visit) :
    captions (all.map (Visit.turned muted volume)) = captions all := by
  rw [captions, captions, List.filterMap_map]
  apply List.filterMap_congr
  rintro ⟨track, element⟩ _
  cases element <;> rfl

theorem outcomes_turned (items : MediaItems) (all : List Visit) :
    outcomes items (all.map (Visit.turned muted volume)) = outcomes items all := by
  rw [outcomes, outcomes, List.map_map]
  apply List.map_congr_left
  rintro ⟨track, element⟩ _
  cases element <;> rfl

/-- Only the elements of the clips change. -/
theorem select_turned (document : Document) :
    select (document.turned muted volume) =
      { select document with
        clips := (select document).clips.map (Clip.turned muted volume) } := by
  have htakes := takes_turned muted volume document.mediaItems (visits document.tracks)
  have hsources : (takes document.mediaItems
      ((visits document.tracks).map (Visit.turned muted volume))).map Take.source =
        (takes document.mediaItems (visits document.tracks)).map Take.source := by
    rw [htakes, List.map_map]
    rfl
  simp only [select, Document.turned, visits_turned, hsources, captions_turned, outcomes_turned]
  rw [htakes, List.map_map, List.map_map]
  rfl

/-! ## The picture -/

theorem clipsOfKind_turned (kind : MediaKind) (clips : List Clip) :
    clipsOfKind kind (clips.map (Clip.turned muted volume)) =
      (clipsOfKind kind clips).map (Clip.turned muted volume) := by
  rw [clipsOfKind, clipsOfKind, List.filter_map]
  rfl

theorem frame_turned (document : Document) (options : Options) :
    Frame.of (document.turned muted volume) options = Frame.of document options := by
  rw [Frame.of, Frame.of, Document.turned, duration_turned]

/-- Each step of a pass reads the settings of its clip that concern the picture, and leaves the
    same sheet. -/
theorem picture_turned (options : Options) (frame : Frame) (selection : Selection) :
    picture options frame
        { selection with clips := selection.clips.map (Clip.turned muted volume) } =
      picture options frame selection := by
  have hvideo (sheet : Sheet) (clip : Clip) :
      addVideo frame sheet (clip.turned muted volume) = addVideo frame sheet clip := rfl
  have himage (sheet : Sheet) (clip : Clip) :
      addImage options frame sheet (clip.turned muted volume) =
        addImage options frame sheet clip := rfl
  simp only [picture, clipsOfKind_turned, List.foldl_map, hvideo, himage]

end Turned

/-- Documents that differ in sound only have the same frame, read the same sources, leave out the
    same elements and have one picture. -/
theorem selected_of_sameButSound {document other : Document} (h : document.SameButSound other)
    (options : Options) :
    Frame.of document options = Frame.of other options ∧
      (select document).sources = (select other).sources ∧
      (select document).outcomes = (select other).outcomes ∧
      picture options (Frame.of document options) (select document) =
        picture options (Frame.of other options) (select other) := by
  -- what a document has in common with the one that both become
  have hcommon (document : Document) :
      let turned := document.turned false (.ofNat 1)
      Frame.of turned options = Frame.of document options ∧
        (select turned).sources = (select document).sources ∧
        (select turned).outcomes = (select document).outcomes ∧
        picture options (Frame.of turned options) (select turned) =
          picture options (Frame.of document options) (select document) := by
    dsimp only
    rw [frame_turned, select_turned, picture_turned]
    exact ⟨rfl, rfl, rfl, rfl⟩
  obtain ⟨hframe, hsources, houtcomes, hpicture⟩ := hcommon document
  obtain ⟨hframe', hsources', houtcomes', hpicture'⟩ := hcommon other
  rw [h] at hframe hsources houtcomes hpicture
  exact ⟨hframe.symm.trans hframe', hsources.symm.trans hsources',
    houtcomes.symm.trans houtcomes', hpicture.symm.trans hpicture'⟩

/-! ## What follows the picture -/

theorem not_isPictorial_soundChain (element : MediaElement) (delay : Int) :
    ¬ IsPictorial (soundChain element delay) := by
  intro h
  exact h _ List.mem_cons_self (by decide : "atrim" ∈ soundFilterNames)

/-- The chains of sounds and their mix work on sound. -/
theorem not_isPictorial_sounds (timed : List (Clip × Int)) (names : List String)
    (first number : Nat) :
    ∀ node ∈ soundNodes timed first ++ mixNodes names number, ¬ IsPictorial node.chain := by
  intro node hnode
  rcases List.mem_append.mp hnode with hsound | hmix
  · induction timed generalizing first with
    | nil => cases hsound
    | cons sound rest ih =>
        rcases List.mem_cons.mp hsound with rfl | hrest
        · exact not_isPictorial_soundChain sound.1.element sound.2
        · exact ih (first + 1) (List.mem_append_left _ hrest) hrest
  · match names with
    | [] => cases hmix
    | [_] => cases hmix
    | _ :: _ :: _ =>
        obtain rfl := List.mem_singleton.mp hmix
        intro h
        exact h _ List.mem_cons_self (by decide : "amix" ∈ soundFilterNames)

/-- The nodes of a picture: the base surface, then the video clips, images and captions. -/
def drawnNodes (options : Options) (document : Document) : List Node :=
  baseNode (Frame.of document options) ::
    (pictureNodes options (Frame.of document options) (select document)).flatten

/-- The graph of a compilation is the picture, followed by nodes for sound. -/
theorem exists_nodes_eq_append {options : Options} {document : Document}
    {compilation : Compilation} (h : compile options document = .ok compilation) :
    ∃ sounds, compilation.graph.nodes = drawnNodes options document ++ sounds ∧
      ∀ node ∈ sounds, ¬ IsPictorial node.chain := by
  obtain ⟨timed, -, -, hnodes, -, -⟩ := exists_timed h
  let mark := captionMark options (Frame.of document options) (select document)
  refine ⟨soundNodes timed mark.next ++
    mixNodes (labels "a" mark.next timed.length) (mark.next + timed.length), ?_, ?_⟩
  · rw [hnodes, drawnNodes, List.append_assoc, List.cons_append]
  · exact not_isPictorial_sounds timed _ _ _

/-! ## One picture -/

/-- Two compilations of the picture of a document, which may differ in sound. -/
structure SamePicture (options : Options) (document : Document) (before after : Compilation) :
    Prop where
  /-- Both graphs begin with the nodes of the base surface, the video clips, the images and the
      captions, with all their labels.  None of these nodes has to do with sound, and all that
      follow them have. -/
  nodes : ∃ sounds others,
    before.graph.nodes = drawnNodes options document ++ sounds ∧
    after.graph.nodes = drawnNodes options document ++ others ∧
    Soundless (drawnNodes options document) ∧
    ∀ node ∈ sounds ++ others, ¬ IsPictorial node.chain
  video : before.video = after.video
  outcomes : before.outcomes = after.outcomes
  warnings : before.warnings = after.warnings
  /-- The inputs are those of the base surface and of the media in use, before silence. -/
  inputs : ∃ used, used.length = document.usedMediaIds.length + 1 ∧
    before.inputs = used ++
      (if before.audio = none then [silenceInput (Frame.of document options)] else []) ∧
    after.inputs = used ++
      (if after.audio = none then [silenceInput (Frame.of document options)] else [])

theorem inputs_assembled (options : Options) (document : Document) (audio : Option String)
    (graph : Filter.Graph) :
    (assembled options document audio graph).inputs =
      baseInput (Frame.of document options) :: (select document).sources.map Source.input ++
        (if audio = none then [silenceInput (Frame.of document options)] else []) := by
  cases audio <;> rfl

/-- Sound settings never change the picture: documents that differ in nothing but the muting and
    the volume of media elements, and that both compile, have the same picture. -/
theorem compile_samePicture {options : Options} {document other : Document}
    {before after : Compilation} (hsame : document.SameButSound other)
    (hbefore : compile options document = .ok before)
    (hafter : compile options other = .ok after) :
    SamePicture options document before after := by
  obtain ⟨hframe, hsources, houtcomes, hpicture⟩ := selected_of_sameButSound hsame options
  obtain ⟨sounds, hnodes, hsounds⟩ := exists_nodes_eq_append hbefore
  obtain ⟨others, hnodes', hothers⟩ := exists_nodes_eq_append hafter
  have hdrawn : drawnNodes options other = drawnNodes options document := by
    have hpainted := (nodes_picture options (Frame.of document options) (select document)).1
    rw [hpicture] at hpainted
    exact (nodes_picture options (Frame.of other options) (select other)).1.symm.trans hpainted
  rw [hdrawn] at hnodes'
  obtain ⟨audio, graph, -, rfl⟩ := compile_eq_ok.mp hbefore
  obtain ⟨audio', graph', -, rfl⟩ := compile_eq_ok.mp hafter
  refine {
    nodes := ⟨sounds, others, hnodes, hnodes', soundless_picture options _ _, ?_⟩
    video := congrArg Sheet.surface hpicture
    outcomes := houtcomes
    warnings := congrArg Sheet.warnings hpicture
    inputs := ⟨baseInput (Frame.of document options) :: (select document).sources.map Source.input,
      ?_, inputs_assembled options document audio graph, ?_⟩ }
  · intro node hnode
    rcases List.mem_append.mp hnode with hbefore | hafter
    · exact hsounds node hbefore
    · exact hothers node hafter
  · rw [List.length_cons, List.length_map, length_sources]
  · rw [hframe, hsources]
    exact inputs_assembled options other audio' graph'

/-- The sample with everything muted and turned down to a half: fewer clips are heard. -/
theorem compile_samePicture_sampleDocument :
    let quiet := sampleDocument.turned true (.ofDecimal false 5 (-1))
    sampleDocument.SameButSound quiet ∧
      ∃ before after, compile {} sampleDocument = .ok before ∧ compile {} quiet = .ok after ∧
        SamePicture {} sampleDocument before after := by
  have hsame := sameButSound_turned true (.ofDecimal false 5 (-1)) sampleDocument
  obtain ⟨before, hbefore⟩ := exists_compile_sampleDocument
  have hdelays : hasDelays (sampleDocument.turned true (.ofDecimal false 5 (-1))) = true := by
    decide +kernel
  obtain ⟨after, hafter⟩ := exists_compile_of_hasDelays {} hdelays
  exact ⟨hsame, before, after, hbefore, hafter, compile_samePicture hsame hbefore hafter⟩

end Montage.Compile
