/-
  Montage.Proofs.Compile.Ledger

  The ledger of a compilation: one outcome for each element of a document in timeline
  order, and in the graph a share for each element that counts as rendered and for no
  other.
-/
import Montage.Proofs.Compile.Inputs
import Montage.Proofs.Compile.Tally
import Montage.Proofs.Timeline.Order

namespace Montage.Compile

open Montage.Filter (Node labels)
open Montage.Number Montage.Timeline

/-! ## Showings -/

/-- A media element whose medium is there, with its track and its medium. -/
structure Showing where
  track : Track
  element : MediaElement
  asset : MediaAsset

/-- The showing of a visited element: its medium is known and has a url that is not
    empty. -/
def Visit.showing? (items : MediaItems) (visit : Visit) : Option Showing :=
  match visit.element with
  | .text _ => none
  | .media element =>
    match items.find? element.mediaId with
    | none => none
    | some asset =>
      if asset.url = none ∨ asset.url = some "" then none else some ⟨visit.track, element, asset⟩

/-- The showings of a document in the order in which its elements are visited. -/
def showings (document : Document) : List Showing :=
  (visits document.tracks).filterMap (Visit.showing? document.mediaItems)

/-- The showings of one kind of medium. -/
def showingsOf (kind : MediaKind) (document : Document) : List Showing :=
  (showings document).filter fun showing => showing.asset.kind = kind

/-- Whether a showing is heard: sounds always, images never, and videos on audio tracks
    or if they are not muted. -/
def Showing.isHeard (showing : Showing) : Bool :=
  showing.asset.kind = .audio ∨
    showing.asset.kind = .video ∧ (showing.track.kind = .audio ∨ showing.element.muted = false)

/-- The showings that are heard. -/
def heard (document : Document) : List Showing :=
  (showings document).filter Showing.isHeard

/-! ## Sources of media elements -/

theorem locator?_eq_none {asset : MediaAsset} :
    asset.locator? = none ↔ asset.url = none ∨ asset.url = some "" := by
  cases hurl : asset.url with
  | none => simp [MediaAsset.locator?, hurl]
  | some url => simp [MediaAsset.locator?, Option.filter_eq_none_iff, hurl]

/-- A media element shows an unknown medium, one without a url, or one that has a
    source. -/
theorem source?_cases (items : MediaItems) (element : MediaElement) :
    (items.find? element.mediaId = none ∧ source? items element = .error .unresolvedMedia) ∨
    (∃ asset, items.find? element.mediaId = some asset ∧
      (asset.url = none ∨ asset.url = some "") ∧
      source? items element = .error .missingLocator) ∨
    ∃ asset url, items.find? element.mediaId = some asset ∧
      ¬ (asset.url = none ∨ asset.url = some "") ∧
      source? items element = .ok ⟨element.mediaId, asset, url⟩ := by
  cases hfind : items.find? element.mediaId with
  | none => exact .inl ⟨rfl, by simp [source?, hfind]⟩
  | some asset =>
      cases hplace : asset.locator? with
      | none =>
          have hurl := locator?_eq_none.mp hplace
          exact .inr (.inl ⟨asset, rfl, hurl, by simp [source?, hfind, hplace]⟩)
      | some place =>
          have hurl : ¬ (asset.url = none ∨ asset.url = some "") := by
            rw [← locator?_eq_none, hplace]
            simp
          exact .inr (.inr ⟨asset, place, rfl, hurl, by simp [source?, hfind, hplace]⟩)

/-! ## Clips of showings -/

/-- The clip of a showing. -/
def Showing.clip (sources : List Source) (showing : Showing) : Clip :=
  ⟨showing.element, showing.track.kind, showing.asset,
    inputNumber sources showing.element.mediaId⟩

theorem map_clip_take? (items : MediaItems) (sources : List Source) (visit : Visit) :
    (visit.take? items).map (Take.clip sources) =
      (visit.showing? items).map (Showing.clip sources) := by
  obtain ⟨track, element⟩ := visit
  cases element with
  | text element => rfl
  | media element =>
      rcases source?_cases items element with
        ⟨hfind, hsource⟩ | ⟨asset, hfind, hurl, hsource⟩ | ⟨asset, url, hfind, hurl, hsource⟩
      · simp [Visit.take?, Visit.showing?, hfind, hsource]
      · simp [Visit.take?, Visit.showing?, hfind, hsource, hurl]
      · simp [Visit.take?, Visit.showing?, hfind, hsource, hurl, Take.clip, Showing.clip]

/-- The clips that are composed are those of the showings. -/
theorem clips_select (document : Document) :
    (select document).clips = (showings document).map (Showing.clip (select document).sources) := by
  have hclips : (select document).clips =
      (takes document.mediaItems (visits document.tracks)).map
        (Take.clip (select document).sources) := rfl
  rw [hclips, takes, showings, List.map_filterMap, List.map_filterMap]
  exact List.filterMap_congr fun visit _ => map_clip_take? _ _ visit

theorem clipsOfKind_select (kind : MediaKind) (document : Document) :
    clipsOfKind kind (select document).clips =
      (showingsOf kind document).map (Showing.clip (select document).sources) := by
  rw [clips_select, clipsOfKind, List.filter_map]
  rfl

theorem isAudible_clip (sources : List Source) (showing : Showing) :
    (showing.clip sources).isAudible = showing.isHeard := by
  cases hkind : showing.asset.kind with
  | image => simp [Showing.clip, Clip.isAudible, Showing.isHeard, hkind]
  | audio => simp [Showing.clip, Clip.isAudible, Showing.isHeard, hkind]
  | video =>
      by_cases htrack : showing.track.kind = .audio
      · simp [Showing.clip, Clip.isAudible, Showing.isHeard, hkind, htrack]
      · simp [Showing.clip, Clip.isAudible, Showing.isHeard, hkind, htrack]

theorem audible_select (document : Document) :
    (select document).clips.filter Clip.isAudible =
      (heard document).map (Showing.clip (select document).sources) := by
  have hsame : Clip.isAudible ∘ Showing.clip (select document).sources = Showing.isHeard :=
    funext fun showing => isAudible_clip (select document).sources showing
  rw [clips_select, List.filter_map, hsame, heard]

/-! ## Outcomes -/

/-- What an outcome says of the element it is for: it is skipped exactly if it shows a
    medium that is not known, or one without a url. -/
structure Judged (items : MediaItems) (visit : Visit) (outcome : Outcome) : Prop where
  elementId : outcome.elementId = visit.element.slot.id
  trackId : outcome.trackId = visit.track.id
  unresolved : outcome.verdict = .skipped .unresolvedMedia ↔
    ∃ media, visit.element = .media media ∧ items.find? media.mediaId = none
  unplaced : outcome.verdict = .skipped .missingLocator ↔
    ∃ media asset, visit.element = .media media ∧ items.find? media.mediaId = some asset ∧
      (asset.url = none ∨ asset.url = some "")
  rendered : outcome.verdict = .rendered ↔
    (∃ text, visit.element = .text text) ∨ ∃ showing, visit.showing? items = some showing

theorem judged_verdict (items : MediaItems) (visit : Visit) :
    Judged items visit ⟨visit.element.slot.id, visit.track.id, verdict items visit.element⟩ := by
  obtain ⟨track, element⟩ := visit
  cases element with
  | text element =>
      refine ⟨rfl, rfl, ?_, ?_, ?_⟩ <;> simp [verdict]
  | media element =>
      rcases source?_cases items element with
        ⟨hfind, hsource⟩ | ⟨asset, hfind, hurl, hsource⟩ | ⟨asset, url, hfind, hurl, hsource⟩
      · refine ⟨rfl, rfl, ?_, ?_, ?_⟩ <;> simp [verdict, Visit.showing?, hfind, hsource]
      · refine ⟨rfl, rfl, ?_, ?_, ?_⟩ <;> simp [verdict, Visit.showing?, hfind, hsource, hurl]
      · refine ⟨rfl, rfl, ?_, ?_, ?_⟩ <;> simp [verdict, Visit.showing?, hfind, hsource, hurl]

/-- Every visited element has its outcome. -/
theorem forall₂_judged (document : Document) :
    List.Forall₂ (Judged document.mediaItems) (visits document.tracks)
      (select document).outcomes := by
  have houtcomes : (select document).outcomes =
      outcomes document.mediaItems (visits document.tracks) := rfl
  rw [houtcomes, outcomes, List.forall₂_map_right_iff]
  exact List.forall₂_same.mpr fun visit _ => judged_verdict document.mediaItems visit

/-! ## Shares -/

/-- Nodes that are made of the base surface, a part for each showing of a video or an
    image, for each text and for each showing that is heard, and the mix. -/
def IsShared (options : Options) (document : Document) (nodes : List Node) : Prop :=
  ∃ videos images texts sounds : List (List Node), ∃ mix : List Node,
    nodes = baseNode (Frame.of document options) ::
      (videos.flatten ++ images.flatten ++ texts.flatten ++ sounds.flatten ++ mix) ∧
    List.Forall₂
      (fun showing part => Tally (videoNodeCount document.project.backdrop)
        [elementGate showing.element.toSlot] [] [] part)
      (showingsOf .video document) videos ∧
    List.Forall₂ (fun showing part => Tally 2 [elementGate showing.element.toSlot] [] [] part)
      (showingsOf .image document) images ∧
    List.Forall₂ (fun text part => Tally 1 [] [captionFilter options text] [] part)
      (captions (visits document.tracks)) texts ∧
    List.Forall₂ (fun showing part => Tally 1 [] [] [soundCut showing.element] part)
      (heard document) sounds ∧
    Tally (if 2 ≤ (heard document).length then 1 else 0) [] [] [] mix

theorem forall₂_tally_soundNodes (timed : List (Clip × Int)) (first : Nat) :
    List.Forall₂ (fun clip part => Tally 1 [] [] [soundCut clip.element] part)
      (timed.map Prod.fst) ((soundNodes timed first).map fun node => [node]) := by
  rw [List.forall₂_map_right_iff]
  refine (forall₂_soundNodes timed first).imp ?_
  rintro clip node ⟨delay, label, rfl⟩
  exact tally_soundChain clip.element delay _ _

/-- The strokes of a brush have the share of their items. -/
theorem forall₂_tally_strokes {α β : Type} {brush : Brush α} (item : β → α) {n : Nat}
    {gates : β → List Json} {texts cuts : β → List Filter}
    (h : ∀ b mark, Tally n (gates b) (texts b) (cuts b) (brush.nodes (item b) mark))
    (items : List β) (mark : Mark) :
    List.Forall₂ (fun b part => Tally n (gates b) (texts b) (cuts b) part) items
      (brush.strokes (items.map item) mark) := by
  induction items generalizing mark with
  | nil => exact .nil
  | cons first rest ih => exact .cons (h first mark) (ih (brush.advance mark))

theorem isShared_compile {options : Options} {document : Document} {compilation : Compilation}
    (h : compile options document = .ok compilation) :
    IsShared options document compilation.graph.nodes := by
  obtain ⟨timed, htimed, -, hnodes, -, -⟩ := exists_timed h
  have hheard : timed.length = (heard document).length := by
    rw [← List.length_map Prod.fst, htimed, audible_select, List.length_map]
  rw [pictureNodes, List.flatten_append, List.flatten_append, clipsOfKind_select,
    clipsOfKind_select] at hnodes
  have hvideos := forall₂_tally_strokes (Showing.clip (select document).sources)
    (fun showing mark => tally_videoBrush (Frame.of document options) (showing.clip _) mark)
    (showingsOf .video document) baseMark
  have himages := forall₂_tally_strokes (Showing.clip (select document).sources)
    (fun showing mark => tally_imageBrush options (Frame.of document options) (showing.clip _) mark)
    (showingsOf .image document) (videoMark (Frame.of document options) (select document))
  have htexts := forall₂_tally_strokes id
    (fun text mark => tally_captionBrush options text mark) (captions (visits document.tracks))
    (imageMark options (Frame.of document options) (select document))
  have hsounds := forall₂_tally_soundNodes timed
    (captionMark options (Frame.of document options) (select document)).next
  have hmix := tally_mixNodes
    (captionMark options (Frame.of document options) (select document)).next timed.length
    ((captionMark options (Frame.of document options) (select document)).next + timed.length)
  have hsingle : ∀ nodes : List Node, (nodes.map fun node => [node]).flatten = nodes := by
    intro nodes
    rw [← List.flatMap_def, List.flatMap_singleton']
  rw [List.map_id] at htexts
  rw [htimed, audible_select, List.forall₂_map_left_iff] at hsounds
  rw [hheard] at hmix hnodes
  refine ⟨_, _, _, _, _, ?_, hvideos, himages, htexts, hsounds, hmix⟩
  rw [hnodes, hsingle]
  rfl

/-- What shares amount to. -/
theorem IsShared.tally {options : Options} {document : Document} {nodes : List Node}
    (h : IsShared options document nodes) :
    Tally
      (1 + videoNodeCount document.project.backdrop * (showingsOf .video document).length +
        2 * (showingsOf .image document).length + (captions (visits document.tracks)).length +
        (heard document).length + if 2 ≤ (heard document).length then 1 else 0)
      ((showingsOf .video document ++ showingsOf .image document).map
        fun showing => elementGate showing.element.toSlot)
      ((captions (visits document.tracks)).map (captionFilter options))
      ((heard document).map fun showing => soundCut showing.element) nodes := by
  obtain ⟨videos, images, texts, sounds, mix, rfl, hvideos, himages, htexts, hsounds, hmix⟩ := h
  have hall := (tally_baseNode (Frame.of document options)).append
    (((((Tally.flatten hvideos).append (Tally.flatten himages)).append
      (Tally.flatten htexts)).append (Tally.flatten hsounds)).append hmix)
  have hcount :
      1 + (videoNodeCount document.project.backdrop * (showingsOf .video document).length +
        2 * (showingsOf .image document).length + 1 * (captions (visits document.tracks)).length +
        1 * (heard document).length + (if 2 ≤ (heard document).length then 1 else 0)) =
      1 + videoNodeCount document.project.backdrop * (showingsOf .video document).length +
        2 * (showingsOf .image document).length + (captions (visits document.tracks)).length +
        (heard document).length + (if 2 ≤ (heard document).length then 1 else 0) := by
    omega
  rw [hcount] at hall
  simpa [flatMap_nothing, ← List.map_eq_flatMap] using hall

/-! ## Inputs of showings -/

theorem usedMediaIds_eq (document : Document) :
    document.usedMediaIds =
      firstSeen ((showings document).map fun showing => showing.element.mediaId) := by
  have hshown := congrArg (List.map fun clip => clip.element.mediaId) (clips_select document)
  have htaken : (takes document.mediaItems (visits document.tracks)).map
      (fun take => take.source.mediaId) =
        (takes document.mediaItems (visits document.tracks)).map
          fun take => take.element.mediaId := by
    refine List.map_congr_left fun take htake => ?_
    obtain ⟨-, -, -, -, hsource⟩ := mem_takes.mp htake
    exact (source?_eq_ok.mp hsource).1
  rw [← map_mediaId_sources, select, map_mediaId_distinctSources, List.map_map]
  simp only [select, List.map_map] at hshown
  exact congrArg firstSeen (htaken.trans hshown)

/-! ## The ledger -/

/-- What a compilation says of the elements of its document, and what it makes of them. -/
structure Ledger (options : Options) (document : Document) (compilation : Compilation) : Prop where
  /-- Elements are visited track by track, and on a track by start time. -/
  order : ∀ track ∈ document.tracks, InStartOrder track.elements track.sortedElements
  entries : List.Forall₂ (Judged document.mediaItems) (visits document.tracks) compilation.outcomes
  shares : IsShared options document compilation.graph.nodes
  /-- The graph as a whole has as many nodes, gated overlays, texts and cuts of sounds as
      there are showings and texts. -/
  total : Tally
    (1 + videoNodeCount document.project.backdrop * (showingsOf .video document).length +
      2 * (showingsOf .image document).length + (captions (visits document.tracks)).length +
      (heard document).length + if 2 ≤ (heard document).length then 1 else 0)
    ((showingsOf .video document ++ showingsOf .image document).map
      fun showing => elementGate showing.element.toSlot)
    ((captions (visits document.tracks)).map (captionFilter options))
    ((heard document).map fun showing => soundCut showing.element) compilation.graph.nodes
  /-- Besides the base surface and silence, the inputs are the media of showings. -/
  inputs : ∃ used,
    compilation.inputs = lavfiColor options document :: used ++
      (if compilation.audio = none then [lavfiSilence options document] else []) ∧
    List.Forall₂ (IsInputOf document)
      (firstSeen ((showings document).map fun showing => showing.element.mediaId)) used

/-- Every compilation of a document that was checked keeps such a ledger. -/
theorem compile_ledger {rule : ObjectRule} {value : Json} {document : Document} {options : Options}
    {compilation : Compilation} (hvalid : checkDocument rule value = .valid document)
    (h : compile options document = .ok compilation) : Ledger options document compilation := by
  have htimed := timed_of_checkDocument hvalid
  have hshares := isShared_compile h
  have hinputs := inputs_of_compile h
  have hentries : List.Forall₂ (Judged document.mediaItems) (visits document.tracks)
      compilation.outcomes := by
    obtain ⟨audio, graph, -, rfl⟩ := compile_eq_ok.mp h
    exact forall₂_judged document
  rw [usedMediaIds_eq] at hinputs
  exact {
    order := fun track htrack => inStartOrder_sortedElements (htimed track htrack)
    entries := hentries
    shares := hshares
    total := hshares.tally
    inputs := hinputs }

/-! ## A sample -/

/-- A media element of two seconds as it is written. -/
def sampleMediaValue (id mediaId : String) (start : Int) : Json :=
  .obj [("type", .str "media"), ("id", .str id), ("mediaId", .str mediaId),
    ("startTime", .int start), ("duration", .int 2)]

/-- A timeline as it is written: a film and a logo that start together, a medium that is
    not known, one without a url, and a caption. -/
def sampleTimeline : Json :=
  .obj
    [("project", .obj
       [("canvasSize", .obj [("width", .int 640), ("height", .int 360)]),
        ("backgroundType", .str "blur")]),
     ("tracks", .arr
       [.obj [("id", .str "t1"), ("elements", .arr
          [sampleMediaValue "e1" "film" 4, sampleMediaValue "e2" "logo" 4,
           sampleMediaValue "e3" "lost" 0, sampleMediaValue "e4" "draft" 1])],
        .obj [("id", .str "t2"), ("type", .str "text"), ("elements", .arr
          [.obj [("type", .str "text"), ("id", .str "e5"), ("startTime", .int 1),
            ("duration", .int 2), ("content", .str "hello")]])]]),
     ("mediaItems", .obj
       [("film", .obj [("type", .str "video"), ("url", .str "https://media.test/film.mp4")]),
        ("logo", .obj [("type", .str "image"), ("url", .str "https://media.test/logo.png")]),
        ("draft", .obj [("type", .str "audio"), ("url", .str "")])])]

theorem compile_ledger_sampleTimeline : ∃ document compilation,
    checkDocument .byModel sampleTimeline = .valid document ∧
      compile {} document = .ok compilation ∧ Ledger {} document compilation := by
  have hdelays : (checkDocument .byModel sampleTimeline).all hasDelays = true := by decide +kernel
  obtain ⟨document, hvalid, htest⟩ := Validation.Checked.all_eq_true.mp hdelays
  obtain ⟨compilation, h⟩ := exists_compile_of_hasDelays {} htest
  exact ⟨document, compilation, hvalid, h, compile_ledger hvalid h⟩

end Montage.Compile
