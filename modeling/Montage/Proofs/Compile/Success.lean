/-
  Montage.Proofs.Compile.Success

  What a successful compilation is made of, and when there is one: the only thing that
  can fail is the delay of an audible clip.  The ids of the selected sources are the
  referenced ids whose medium is known and has a place, in order of first use; every source
  has the asset and the place that the document gives its id.
-/
import Mathlib.Data.List.Basic
import Montage.Compile.Compilation
import Montage.Proofs.Timeline.Media

namespace Montage.Compile

open Montage.Timeline

/-! ## Visits -/

theorem mem_visits {visit : Visit} {tracks : List Track} :
    visit ∈ visits tracks ↔ visit.track ∈ tracks ∧ visit.element ∈ visit.track.elements := by
  simp only [visits, List.mem_flatMap, List.mem_map]
  constructor
  · rintro ⟨track, htrack, element, helement, rfl⟩
    exact ⟨htrack, (sortedElements_perm track).mem_iff.mp helement⟩
  · rintro ⟨htrack, helement⟩
    exact ⟨visit.track, htrack, visit.element,
      (sortedElements_perm visit.track).mem_iff.mpr helement, rfl⟩

theorem mediaIds_visits (tracks : List Track) :
    ((visits tracks).filterMap fun visit => visit.element.mediaId?) =
      tracks.flatMap fun track => track.sortedElements.filterMap Element.mediaId? := by
  rw [visits, List.filterMap_flatMap]
  refine List.flatMap_congr fun track _ => ?_
  rw [List.filterMap_map]
  rfl

/-! ## Takes -/

theorem source?_eq_ok {items : MediaItems} {element : MediaElement} {source : Source} :
    source? items element = .ok source ↔
      source.mediaId = element.mediaId ∧ items.find? element.mediaId = some source.asset ∧
        source.asset.locator? = some source.locator := by
  obtain ⟨mediaId, asset, place⟩ := source
  cases hfind : items.find? element.mediaId with
  | none => simp [source?, hfind]
  | some found =>
      cases hplace : found.locator? with
      | none =>
          simp only [source?, hfind, hplace, reduceCtorEq, Option.some.injEq, false_iff, not_and]
          rintro - rfl
          simp [hplace]
      | some other =>
          simp only [source?, hfind, hplace, Except.ok.injEq, Source.mk.injEq, Option.some.injEq]
          constructor
          · rintro ⟨rfl, rfl, rfl⟩
            exact ⟨rfl, rfl, hplace⟩
          · rintro ⟨rfl, rfl, hsame⟩
            rw [hplace] at hsame
            exact ⟨rfl, rfl, Option.some.inj hsame⟩

theorem hasPlace_eq_true_iff {items : MediaItems} {element : MediaElement} :
    items.hasPlace element.mediaId = true ↔ ∃ source, source? items element = .ok source := by
  simp only [MediaItems.hasPlace, source?]
  cases items.find? element.mediaId with
  | none => simp
  | some asset => cases hplace : asset.locator? <;> simp [hplace]

theorem hasPlace_eq_false {items : MediaItems} {element : MediaElement} {reason : SkipReason}
    (h : source? items element = .error reason) : items.hasPlace element.mediaId = false := by
  rw [Bool.eq_false_iff]
  intro hsome
  obtain ⟨source, hok⟩ := hasPlace_eq_true_iff.mp hsome
  rw [h] at hok
  cases hok

theorem take?_eq_some {items : MediaItems} {visit : Visit} {take : Take} :
    visit.take? items = some take ↔
      visit.element = .media take.element ∧ visit.track.kind = take.trackKind ∧
        source? items take.element = .ok take.source := by
  obtain ⟨track, element⟩ := visit
  obtain ⟨taken, trackKind, source⟩ := take
  cases element with
  | text element => simp [Visit.take?]
  | media element =>
      simp only [Visit.take?, Element.media.injEq]
      cases hsource : source? items element with
      | ok found =>
          simp only [Option.some.injEq, Take.mk.injEq]
          constructor
          · rintro ⟨rfl, rfl, rfl⟩
            exact ⟨rfl, rfl, hsource⟩
          · rintro ⟨rfl, rfl, hsame⟩
            rw [hsource] at hsame
            exact ⟨rfl, rfl, Except.ok.inj hsame⟩
      | error reason =>
          simp only [reduceCtorEq, false_iff, not_and]
          rintro rfl -
          simp [hsource]

theorem mem_takes {items : MediaItems} {all : List Visit} {take : Take} :
    take ∈ takes items all ↔ ∃ visit ∈ all, visit.element = .media take.element ∧
      visit.track.kind = take.trackKind ∧ source? items take.element = .ok take.source := by
  simp only [takes, List.mem_filterMap, take?_eq_some]

/-- The media of the elements that are rendered are the referenced media with a place. -/
theorem mediaIds_takes (items : MediaItems) (all : List Visit) :
    (takes items all).map (fun take => take.source.mediaId) =
      (all.filterMap fun visit => visit.element.mediaId?).filter items.hasPlace := by
  induction all with
  | nil => rfl
  | cons visit rest ih =>
      obtain ⟨track, element⟩ := visit
      cases element with
      | text element => exact ih
      | media element =>
          cases hsource : source? items element with
          | ok source =>
              have hplace : items.hasPlace element.mediaId = true :=
                hasPlace_eq_true_iff.mpr ⟨source, hsource⟩
              have htake : (Visit.mk track (.media element)).take? items =
                  some ⟨element, track.kind, source⟩ := by simp [Visit.take?, hsource]
              rw [takes, List.filterMap_cons_some htake, List.map_cons, ← takes, ih,
                (source?_eq_ok.mp hsource).1]
              simp [Element.mediaId?, hplace]
          | error reason =>
              have htake : (Visit.mk track (.media element)).take? items = none := by
                simp [Visit.take?, hsource]
              rw [takes, List.filterMap_cons_none htake, ← takes, ih]
              simp [Element.mediaId?, hasPlace_eq_false hsource]

/-! ## Clips -/

/-- The clips show the rendered media elements. -/
theorem map_element_clips (document : Document) :
    (select document).clips.map Clip.element = document.renderedMedia := by
  have hvisits : (visits document.tracks).map Visit.element =
      document.tracks.flatMap Track.sortedElements := by
    rw [visits, List.map_flatMap]
    refine List.flatMap_congr fun track _ => ?_
    rw [List.map_map]
    exact List.map_id track.sortedElements
  rw [Document.renderedMedia, ← hvisits, List.filterMap_map, select, takes, List.map_map,
    List.map_filterMap]
  refine List.filterMap_congr fun visit _ => ?_
  obtain ⟨track, element⟩ := visit
  cases element with
  | text element => rfl
  | media element =>
      simp only [Visit.take?, Function.comp]
      cases hsource : source? document.mediaItems element with
      | ok source => simp [Take.clip, hasPlace_eq_true_iff.mpr ⟨source, hsource⟩]
      | error reason => simp [hasPlace_eq_false hsource]

/-! ## Sources -/

theorem map_mediaId_distinctSources (sources : List Source) :
    (distinctSources sources).map Source.mediaId = firstSeen (sources.map Source.mediaId) := by
  induction sources with
  | nil => rfl
  | cons source rest ih =>
      rw [distinctSources, List.map_cons, List.map_cons, firstSeen, ← ih, List.filter_map]
      rfl

theorem mem_of_mem_distinctSources {source : Source} {sources : List Source}
    (h : source ∈ distinctSources sources) : source ∈ sources := by
  induction sources with
  | nil => exact h
  | cons first rest ih =>
      rcases List.mem_cons.mp h with rfl | hrest
      · exact List.mem_cons_self
      · exact List.mem_cons_of_mem first (ih (List.mem_filter.mp hrest).1)

theorem map_mediaId_sources (document : Document) :
    (select document).sources.map Source.mediaId = document.usedMediaIds := by
  have htakes : ((takes document.mediaItems (visits document.tracks)).map Take.source).map
      Source.mediaId = (document.tracks.flatMap fun track =>
        track.sortedElements.filterMap Element.mediaId?).filter document.mediaItems.hasPlace := by
    rw [List.map_map, ← mediaIds_visits]
    exact mediaIds_takes document.mediaItems (visits document.tracks)
  rw [select, map_mediaId_distinctSources, htakes, firstSeen_filter]
  rfl

/-- A source is where the document says that its medium is. -/
theorem place_of_mem_sources {document : Document} {source : Source}
    (h : source ∈ (select document).sources) :
    document.mediaItems.find? source.mediaId = some source.asset ∧
      source.asset.locator? = some source.locator := by
  obtain ⟨take, htake, rfl⟩ := List.mem_map.mp (mem_of_mem_distinctSources h)
  obtain ⟨-, -, -, -, hsource⟩ := mem_takes.mp htake
  obtain ⟨hid, hfind, hplace⟩ := source?_eq_ok.mp hsource
  exact ⟨hid ▸ hfind, hplace⟩

open Montage.Filter (Graph)
open Montage.Number

/-! ## Parts of a success -/

theorem addSounds_cons_eq_ok {clip : Clip} {rest : List Clip} {graph after : Graph}
    {labels : List String} :
    addSounds (clip :: rest) graph = .ok (labels, after) ↔
      ∃ delay others, delayMilliseconds clip.element.toSlot = .ok delay ∧
        addSounds rest
          (graph.addFresh [soundPad clip.input] (soundChain clip.element delay) "a").2 =
            .ok (others, after) ∧
        labels =
          (graph.addFresh [soundPad clip.input] (soundChain clip.element delay) "a").1 ::
            others := by
  cases hdelay : delayMilliseconds clip.element.toSlot with
  | error fault => simp [addSounds, hdelay, bind, Except.bind]
  | ok delay =>
      cases hrest : addSounds rest
          (graph.addFresh [soundPad clip.input] (soundChain clip.element delay) "a").2 with
      | error fault => simp [addSounds, hdelay, hrest, bind, Except.bind]
      | ok added =>
          obtain ⟨names, last⟩ := added
          simp only [addSounds, hdelay, hrest, bind, Except.bind, pure, Except.pure,
            Except.ok.injEq, Prod.mk.injEq]
          constructor
          · rintro ⟨rfl, rfl⟩
            exact ⟨delay, names, rfl, hrest, rfl⟩
          · rintro ⟨same, others, rfl, hsame, rfl⟩
            rw [hrest] at hsame
            obtain ⟨rfl, rfl⟩ := Prod.mk.inj (Except.ok.inj hsame)
            exact ⟨rfl, rfl⟩

theorem sound_eq_ok {clips : List Clip} {graph after : Graph} {audio : Option String} :
    sound clips graph = .ok (audio, after) ↔
      ∃ labels middle, addSounds (clips.filter Clip.isAudible) graph = .ok (labels, middle) ∧
        mixSounds labels middle = (audio, after) := by
  cases hadd : addSounds (clips.filter Clip.isAudible) graph with
  | error fault => simp [sound, hadd, bind, Except.bind]
  | ok added =>
      obtain ⟨labels, middle⟩ := added
      simp [sound, hadd, bind, Except.bind, pure, Except.pure]

/-- What a compilation consists of, once its sound is finished. -/
def assembled (options : Options) (document : Document) (audio : Option String) (graph : Graph) :
    Compilation :=
  let frame := Frame.of document options
  let sheet := picture options frame (select document)
  { inputs := inputs frame (select document).sources audio
    graph
    video := sheet.surface
    audio
    encoding := encoding options frame.fps
    outcomes := (select document).outcomes
    warnings := sheet.warnings }

theorem compile_eq_ok {options : Options} {document : Document} {compilation : Compilation} :
    compile options document = .ok compilation ↔
      ∃ audio graph,
        sound (select document).clips
          (picture options (Frame.of document options) (select document)).graph =
            .ok (audio, graph) ∧
        compilation = assembled options document audio graph := by
  cases hsound : sound (select document).clips
      (picture options (Frame.of document options) (select document)).graph with
  | error fault => simp [compile, hsound, bind, Except.bind]
  | ok finished =>
      obtain ⟨audio, graph⟩ := finished
      simp only [compile, hsound, bind, Except.bind, pure, Except.pure, Except.ok.injEq,
        Prod.mk.injEq]
      constructor
      · rintro rfl
        exact ⟨audio, graph, ⟨rfl, rfl⟩, rfl⟩
      · rintro ⟨_, _, ⟨rfl, rfl⟩, rfl⟩
        rfl

/-! ## When there is one -/

theorem exists_addSounds_eq_ok {clips : List Clip} {graph : Graph} :
    (∃ labels after, addSounds clips graph = .ok (labels, after)) ↔
      ∀ clip ∈ clips, ∃ delay, delayMilliseconds clip.element.toSlot = .ok delay := by
  induction clips generalizing graph with
  | nil => simp [addSounds]
  | cons clip rest ih =>
      rw [List.forall_mem_cons]
      constructor
      · rintro ⟨labels, after, hadd⟩
        obtain ⟨delay, others, hdelay, hrest, -⟩ := addSounds_cons_eq_ok.mp hadd
        exact ⟨⟨delay, hdelay⟩, ih.mp ⟨others, after, hrest⟩⟩
      · rintro ⟨⟨delay, hdelay⟩, hrest⟩
        obtain ⟨others, after, hadd⟩ := ih.mpr hrest
        exact ⟨_, after, addSounds_cons_eq_ok.mpr ⟨delay, others, hdelay, hadd, rfl⟩⟩

/-- A document compiles exactly if the start of every audible clip is a number of
    milliseconds. -/
theorem exists_compile_eq_ok_iff {options : Options} {document : Document} :
    (∃ compilation, compile options document = .ok compilation) ↔
      ∀ clip ∈ (select document).clips.filter Clip.isAudible,
        ∃ delay, delayMilliseconds clip.element.toSlot = .ok delay := by
  constructor
  · rintro ⟨compilation, h⟩
    obtain ⟨audio, graph, hsound, -⟩ := compile_eq_ok.mp h
    obtain ⟨labels, middle, hadd, -⟩ := sound_eq_ok.mp hsound
    exact exists_addSounds_eq_ok.mp ⟨labels, middle, hadd⟩
  · intro h
    obtain ⟨labels, middle, hadd⟩ := exists_addSounds_eq_ok.mpr h
    exact ⟨_, compile_eq_ok.mpr ⟨_, _, sound_eq_ok.mpr ⟨labels, middle, hadd, rfl⟩, rfl⟩⟩

/-- A clip shows an element of the document. -/
theorem exists_of_mem_clips {document : Document} {clip : Clip}
    (h : clip ∈ (select document).clips) :
    ∃ track ∈ document.tracks, .media clip.element ∈ track.elements := by
  obtain ⟨take, htake, rfl⟩ := List.mem_map.mp h
  obtain ⟨visit, hvisit, helement, -⟩ := mem_takes.mp htake
  obtain ⟨htrack, hmem⟩ := mem_visits.mp hvisit
  exact ⟨visit.track, htrack, helement ▸ hmem⟩

/-- A document compiles if the start of every element is a number of milliseconds. -/
theorem exists_compile_eq_ok (options : Options) {document : Document}
    (h : ∀ track ∈ document.tracks, ∀ element ∈ track.elements,
      ∃ delay, delayMilliseconds element.slot = .ok delay) :
    ∃ compilation, compile options document = .ok compilation := by
  refine exists_compile_eq_ok_iff.mpr fun clip hclip => ?_
  obtain ⟨track, htrack, helement⟩ := exists_of_mem_clips (List.mem_filter.mp hclip).1
  exact h track htrack _ helement

/-- Whether the start of every element is a number of milliseconds. -/
def hasDelays (document : Document) : Bool :=
  document.tracks.all fun track => track.elements.all fun element =>
    (delayMilliseconds element.slot).isOk

theorem exists_compile_of_hasDelays (options : Options) {document : Document}
    (h : hasDelays document = true) :
    ∃ compilation, compile options document = .ok compilation := by
  simp only [hasDelays, List.all_eq_true] at h
  refine exists_compile_eq_ok options fun track htrack element helement => ?_
  have hok := h track htrack element helement
  cases hdelay : delayMilliseconds element.slot with
  | ok delay => exact ⟨delay, rfl⟩
  | error fault =>
      rw [hdelay] at hok
      cases hok

/-! ## A sample -/

/-- A media element of two seconds. -/
def sampleClip (id mediaId : String) (start : Nat) (muted : Bool) : Element :=
  .media
    { id, name := none, startTime := .ofNat start, duration := .ofNat 2, trimStart := .int 0
      mediaId, muted, volume := .ofNat 1, effects := [.named "grayscale"], position := none }

/-- A caption of two seconds. -/
def sampleCaption (id content : String) : Element :=
  .text
    { id, name := none, startTime := .ofNat 1, duration := .ofNat 2, trimStart := .int 0
      content, fontSize := 48, color := "#ffffff", backgroundColor := "transparent"
      x := none, y := none, position := none }

def sampleAsset (kind : MediaKind) (url : Option String) : MediaAsset :=
  { id := none, name := none, kind, url, width := none, height := none }

/-- A timeline with media of every kind on a blurred backdrop: one medium is used twice,
    one has no place and one is unknown. -/
def sampleDocument : Document :=
  { project :=
      { id := none, name := none, canvas := ⟨640, 360⟩, fps := 30, backgroundColor := "#000000"
        backdrop := .blur, blurIntensity := .int 8 }
    tracks :=
      [⟨"t1", none, .media,
        [sampleClip "e1" "film" 4 false, sampleClip "e2" "logo" 1 false,
         sampleClip "e3" "lost" 0 false]⟩,
       ⟨"t2", none, .text, [sampleCaption "e4" "it's 5%"]⟩,
       ⟨"t3", none, .audio,
        [sampleClip "e5" "song" 0 true, sampleClip "e6" "film" 0 true,
         sampleClip "e7" "draft" 0 true]⟩]
    mediaItems :=
      [("film", sampleAsset .video (some "https://media.test/film.mp4")),
       ("song", sampleAsset .audio (some "https://media.test/song.mp3")),
       ("draft", sampleAsset .video none),
       ("logo", sampleAsset .image (some "data:image/png;base64,AA=="))] }

theorem exists_compile_sampleDocument :
    ∃ compilation, compile {} sampleDocument = .ok compilation :=
  exists_compile_of_hasDelays {} (by decide +kernel)

end Montage.Compile
