/-
  Montage.Proofs.Compile.Meaning

  What a compilation depends on.  Documents that say the same select the same media from the
  same places for elements that are alike, so they compile to the same; the one thing that tells
  them apart is how the strength of a blurred backdrop is written.  It does: a strength that was
  left out is written as an integer, and one that was given as a double.
-/
import Montage.Proofs.Compile.Alike
import Montage.Proofs.Compile.Layers
import Montage.Proofs.Timeline.Reloaded

namespace Montage.Number.Decimal

/-! ## Doubles as text -/

theorem one_lt_length_positional (d : Scaled) : 1 < (positional true d).length := by
  unfold positional
  split
  · have hpoint : ".0".length = 2 := rfl
    simp only [if_true, String.length_append]
    omega
  · have hpoint : ".".length = 1 := rfl
    simp only [padLeft, String.length_append, String.length_ofList, List.length_take,
      List.length_drop, String.toList_append, List.length_append, String.toList_ofList,
      List.length_replicate, String.length_toList, hpoint]
    omega

theorem one_lt_length_scientific (digits : Nat) (d : Scaled) :
    1 < (scientific digits d).length := by
  have hmark : "e".length = 1 := rfl
  have hsign : (if d.leading < 0 then "-" else "+").length = 1 := by split <;> rfl
  simp only [scientific, String.length_append, hmark, hsign]
  omega

/-- A layout that keeps points writes no number with a single character. -/
theorem Layout.one_lt_length_finite {layout : Layout} (h : layout.keepsPoint = true)
    (negative : Bool) (units : Nat) : 1 < (layout.finite negative units).length := by
  rw [Layout.finite, String.length_append, Layout.render, h]
  refine Nat.lt_of_lt_of_le ?_ (Nat.le_add_left _ _)
  split
  · exact one_lt_length_positional _
  · split
    · exact one_lt_length_positional _
    · exact one_lt_length_scientific _ _

end Montage.Number.Decimal

namespace Montage.Compile

open Montage.Filter (Node)
open Montage.Number Montage.Timeline Montage.Validation

/-! ## Visits -/

/-- Visits of elements that are alike, on tracks with one id and kind. -/
structure Visit.Alike (visit other : Visit) : Prop where
  trackId : visit.track.id = other.track.id
  trackKind : visit.track.kind = other.track.kind
  element : visit.element.Alike other.element

theorem forall₂_visits {tracks others : List Track} (h : List.Forall₂ Track.Alike tracks others) :
    List.Forall₂ Visit.Alike (visits tracks) (visits others) := by
  refine List.rel_flatMap h fun track other halike => ?_
  exact List.rel_map (fun _ _ helement => ⟨halike.id, halike.kind, helement⟩) halike.elements

/-! ## Sources -/

/-- Sources of one medium at one place, whose assets are alike. -/
structure Source.Alike (source other : Source) : Prop where
  mediaId : source.mediaId = other.mediaId
  asset : source.asset.Alike other.asset
  locator : source.locator = other.locator

/-- Searches that fail for one reason, or find sources that are alike. -/
inductive Sought : Except SkipReason Source → Except SkipReason Source → Prop
  | missing (reason : SkipReason) : Sought (.error reason) (.error reason)
  | found {source other : Source} (alike : source.Alike other) : Sought (.ok source) (.ok other)

theorem sought_source? {items others : MediaItems} {element other : MediaElement}
    (helement : element.Alike other)
    (hmedia : Option.Rel MediaAsset.Alike (items.find? element.mediaId)
      (others.find? element.mediaId)) :
    Sought (source? items element) (source? others other) := by
  rw [source?, source?, ← helement.mediaId]
  revert hmedia
  generalize items.find? _ = before, others.find? _ = after
  intro hmedia
  cases hmedia with
  | none => exact .missing _
  | @some asset another halike =>
      simp only [halike.locator?]
      cases another.locator? with
      | none => exact .missing _
      | some locator => exact .found ⟨rfl, halike, rfl⟩

theorem forall₂_distinctSources {sources others : List Source}
    (h : List.Forall₂ Source.Alike sources others) :
    List.Forall₂ Source.Alike (distinctSources sources) (distinctSources others) := by
  induction h with
  | nil => exact .nil
  | @cons source other _ _ halike _ ih =>
      rw [distinctSources, distinctSources, halike.mediaId]
      exact .cons halike (List.rel_filter (fun _ _ hab => by simp only [hab.mediaId]) ih)

theorem inputNumber_eq {sources others : List Source}
    (h : List.Forall₂ Source.Alike sources others) (id : String) :
    inputNumber sources id = inputNumber others id := by
  have hids : sources.map Source.mediaId = others.map Source.mediaId :=
    map_eq_of_forall₂ (fun _ _ hab => hab.mediaId) h
  rw [inputNumber, inputNumber, hids]

theorem map_input_eq {sources others : List Source}
    (h : List.Forall₂ Source.Alike sources others) :
    sources.map Source.input = others.map Source.input :=
  map_eq_of_forall₂ (fun _ _ hab => by
    rw [Source.input, Source.input, hab.locator, hab.asset.kind]) h

/-! ## Takes -/

/-- Takes of elements that are alike from sources that are alike. -/
structure Take.Alike (take other : Take) : Prop where
  element : take.element.Alike other.element
  trackKind : take.trackKind = other.trackKind
  source : take.source.Alike other.source

/-- Whether two lists of media agree on the medium of a visit, if it has one. -/
def Agree (items others : MediaItems) (visit : Visit) : Prop :=
  ∀ id, visit.element.mediaId? = some id →
    Option.Rel MediaAsset.Alike (items.find? id) (others.find? id)

section Selected

variable {items others : MediaItems} {all visited : List Visit}

theorem rel_take? {visit other : Visit} (halike : visit.Alike other)
    (hagree : Agree items others visit) :
    Option.Rel Take.Alike (visit.take? items) (other.take? others) := by
  obtain ⟨track, element⟩ := visit
  obtain ⟨another, element'⟩ := other
  obtain ⟨-, hkind, helement⟩ := halike
  cases helement with
  | text alike => exact .none
  | media alike =>
      have hsought := sought_source? alike (hagree _ rfl)
      simp only [Visit.take?]
      revert hsought
      generalize source? items _ = before, source? others _ = after
      intro hsought
      cases hsought with
      | missing reason => exact .none
      | found hsource => exact .some ⟨alike, hkind, hsource⟩

theorem verdict_eq {visit other : Visit} (halike : visit.Alike other)
    (hagree : Agree items others visit) :
    verdict items visit.element = verdict others other.element := by
  obtain ⟨track, element⟩ := visit
  obtain ⟨another, element'⟩ := other
  obtain ⟨-, -, helement⟩ := halike
  cases helement with
  | text alike => rfl
  | media alike =>
      have hsought := sought_source? alike (hagree _ rfl)
      simp only [verdict]
      revert hsought
      generalize source? items _ = before, source? others _ = after
      intro hsought
      cases hsought with
      | missing reason => rfl
      | found hsource => rfl

theorem rel_caption? {visit other : Visit} (halike : visit.Alike other) :
    Option.Rel TextElement.Alike visit.caption? other.caption? := by
  obtain ⟨track, element⟩ := visit
  obtain ⟨another, element'⟩ := other
  obtain ⟨-, -, helement⟩ := halike
  cases helement with
  | media alike => exact .none
  | text alike => exact .some alike

theorem forall₂_takes
    (h : List.Forall₂ (fun visit other => Agree items others visit ∧ visit.Alike other) all visited) :
    List.Forall₂ Take.Alike (takes items all) (takes others visited) :=
  List.rel_filterMap (fun _ _ hab => rel_take? hab.2 hab.1) h

theorem outcomes_eq
    (h : List.Forall₂ (fun visit other => Agree items others visit ∧ visit.Alike other) all visited) :
    outcomes items all = outcomes others visited :=
  map_eq_of_forall₂ (fun _ _ hab => by
    rw [hab.2.element.slot.id, hab.2.trackId, verdict_eq hab.2 hab.1]) h

end Selected

/-! ## Selections -/

/-- Selections of sources, clips and captions that are alike, with the same outcomes. -/
structure Selection.Alike (selection other : Selection) : Prop where
  sources : List.Forall₂ Source.Alike selection.sources other.sources
  clips : List.Forall₂ Clip.Alike selection.clips other.clips
  captions : List.Forall₂ TextElement.Alike selection.captions other.captions
  outcomes : selection.outcomes = other.outcomes

/-- Documents that say the same select the same. -/
theorem select_alike {document other : Document} (h : document.Alike other) :
    (select document).Alike (select other) := by
  have hvisits := forall₂_visits h.tracks
  have hagree : ∀ visit ∈ visits document.tracks,
      Agree document.mediaItems other.mediaItems visit := by
    intro visit hmem id hid
    refine h.media id ?_
    rw [Document.referencedMediaIds, mem_firstSeen, ← mediaIds_visits]
    exact List.mem_filterMap.mpr ⟨visit, hmem, hid⟩
  have hboth := (List.forall₂_and_left _ _).mpr ⟨hagree, hvisits⟩
  have htakes := forall₂_takes hboth
  have hsources : List.Forall₂ Source.Alike (select document).sources (select other).sources :=
    forall₂_distinctSources (List.rel_map (fun _ _ htake => htake.source) htakes)
  refine ⟨hsources, List.rel_map (fun take another htake => ?_) htakes,
    List.rel_filterMap (fun _ _ hab => rel_caption? hab) hvisits, outcomes_eq hboth⟩
  refine ⟨htake.element, htake.trackKind, htake.source.asset.kind, htake.source.asset.width,
    htake.source.asset.height, ?_⟩
  rw [Take.clip, Take.clip, htake.source.mediaId]
  exact inputNumber_eq hsources _

/-! ## Frames -/

/-- Documents that say the same have the same frame, but for how the strength of the backdrop is
written. -/
theorem frame_of_alike {document other : Document} (hspans : AreSpanned document.tracks)
    (h : document.Alike other) (options : Options) :
    Frame.of other options =
      { Frame.of document options with blurIntensity := other.project.blurIntensity } := by
  rw [Frame.of, Frame.of, duration_eq_of_alike hspans h.tracks, h.project.canvas, h.project.fps,
    h.project.backgroundColor, h.project.backdrop]

/-- On a plain backdrop, the strength of the blur is not used. -/
theorem picture_withBlur {frame : Frame} (hplain : frame.backdrop = .color) (strength : Scalar)
    (options : Options) (selection : Selection) :
    picture options { frame with blurIntensity := strength } selection =
      picture options frame selection := by
  have hvideo : addVideo { frame with blurIntensity := strength } = addVideo frame := by
    funext sheet clip
    simp only [addVideo, fitToCanvas, hplain]
    rfl
  rw [picture, hvideo]
  rfl

theorem picture_eq_of_alike {document other : Document} (hspans : AreSpanned document.tracks)
    (h : document.Alike other)
    (hblur : document.project.backdrop = .blur →
      document.project.blurIntensity = other.project.blurIntensity) (options : Options) :
    picture options (Frame.of document options) (select document) =
      picture options (Frame.of other options) (select other) := by
  have hselected := select_alike h
  rw [frame_of_alike hspans h, ← picture_eq hselected.clips hselected.captions]
  cases hbackdrop : document.project.backdrop with
  | color => exact (picture_withBlur hbackdrop _ options _).symm
  | blur =>
      rw [← hblur hbackdrop]
      rfl

/-! ## Compilations -/

/-- Documents that say the same, and write the strength of a blurred backdrop alike, compile to
the same or fail alike. -/
theorem compile_eq_of_alike {document other : Document} (hspans : AreSpanned document.tracks)
    (h : document.Alike other)
    (hblur : document.project.backdrop = .blur →
      document.project.blurIntensity = other.project.blurIntensity) (options : Options) :
    compile options document = compile options other := by
  have hselected := select_alike h
  have hpicture := picture_eq_of_alike hspans h hblur options
  have hinputs (audio : Option String) :
      inputs (Frame.of document options) (select document).sources audio =
        inputs (Frame.of other options) (select other).sources audio := by
    simp only [inputs, map_input_eq hselected.sources, frame_of_alike hspans h]
    rfl
  have hfps : (Frame.of document options).fps = (Frame.of other options).fps := h.project.fps
  simp only [compile, hpicture, sound_eq hselected.clips, hinputs, hselected.outcomes, hfps]

/-- What a document that was checked compiles to depends on what it says alone.  A track says the
same if it lists its elements in another order, as long as those that start together stay in
theirs; and documents that say the same, with the strength of a blurred backdrop written alike,
compile to the same. -/
theorem compile_meaning {rule : ObjectRule} {value : Json} {document : Document}
    (hvalid : checkDocument rule value = .valid document) :
    (∀ track ∈ document.tracks, ∀ elements, Rearranged track.elements elements →
      { track with elements }.sortedElements = track.sortedElements) ∧
    ∀ other, document.Alike other →
      (document.project.backdrop = .blur →
        document.project.blurIntensity = other.project.blurIntensity) →
      ∀ options, compile options other = compile options document := by
  constructor
  · intro track htrack elements h
    exact sortedElements_eq_of_rearranged (timed_of_checkDocument hvalid track htrack) h
  · intro other h hblur options
    exact (compile_eq_of_alike (areSpanned_of_checkDocument hvalid) h hblur options).symm

/-! ## A timeline told twice -/

/-- A shot as it is written. -/
def sampleShotValue (id name mediaId : String) (start length : Json) : Json :=
  .obj
    [("type", .str "media"), ("id", .str id), ("name", .str name), ("startTime", start),
     ("duration", length), ("mediaId", .str mediaId)]

def sampleShot (id name mediaId : String) (start length : Binary64) : Element :=
  .media
    { id, name := some name, startTime := start, duration := length, trimStart := .int 0,
      mediaId, muted := false, volume := .ofNat 1, effects := [], position := none }

theorem checkElement_sampleShotValue (id name mediaId : String) {start length : Json}
    {time span : Binary64} (hstart : checkNonnegativeReal start = .valid time)
    (hlength : checkPositiveReal length = .valid span) :
    checkElement .byModel (sampleShotValue id name mediaId start length) =
      .valid (sampleShot id name mediaId time span) := by
  have hslot : checkSlot
      [("type", .str "media"), ("id", .str id), ("name", .str name), ("startTime", start),
       ("duration", length), ("mediaId", .str mediaId)] =
        .valid ⟨id, some name, time, span, .int 0⟩ := by
    rw [checkSlot, required_eq_valid rfl hstart, required_eq_valid rfl hlength]
    rfl
  have hmedia : checkMediaElement .byModel (sampleShotValue id name mediaId start length) =
      .valid ⟨⟨id, some name, time, span, .int 0⟩, mediaId, false, .ofNat 1, [], none⟩ := by
    change _ <$> checkSlot _ <*> _ <*> _ <*> _ <*> _ <*> _ <*> _ = _
    rw [hslot]
    rfl
  have hread : checkElement .byModel (sampleShotValue id name mediaId start length) =
      ((checkMediaElement .byModel (sampleShotValue id name mediaId start length)).map .media).under
        (.field "media") := rfl
  rw [hread, hmedia]
  rfl

/-- A timeline of one track on a blurred backdrop as it is written. -/
def sampleReelValue (name : String) (strength : Json) (shots : List Json)
    (media : List (String × Json)) : Json :=
  .obj
    [("project", .obj
      [("name", .str name), ("canvasSize", .obj [("width", .int 640), ("height", .int 360)]),
       ("backgroundType", .str "blur"), ("blurIntensity", strength)]),
     ("tracks", .arr [.obj [("id", .str "t1"), ("name", .str name), ("elements", .arr shots)]]),
     ("mediaItems", .obj media)]

def sampleReel (name : String) (strength : Binary64) (shots : List Element) (media : MediaItems) :
    Document :=
  { project :=
      { id := none, name := some name, canvas := ⟨640, 360⟩, fps := 30,
        backgroundColor := "#000000", backdrop := .blur, blurIntensity := .real strength }
    tracks := [⟨"t1", some name, .media, shots⟩]
    mediaItems := media }

theorem checkDocument_sampleReelValue (name : String) {strength : Json} {values : List Json}
    {entries : List (String × Json)} {blur : Binary64} {shots : List Element} {media : MediaItems}
    (hblur : checkNonnegativeReal strength = .valid blur)
    (hshots : checkList (checkElement .byModel) (.arr values) = .valid shots)
    (hmedia : checkMap (checkAsset .byModel) (.obj entries) = .valid media) :
    checkDocument .byModel (sampleReelValue name strength values entries) =
      .valid (sampleReel name blur shots media) := by
  have hamount : (checkNonnegativeReal strength).map Scalar.real = .valid (.real blur) :=
    Checked.map_eq_valid.mpr ⟨blur, hblur, rfl⟩
  have hproject : checkProject .byModel (.obj
      [("name", .str name), ("canvasSize", .obj [("width", .int 640), ("height", .int 360)]),
       ("backgroundType", .str "blur"), ("blurIntensity", strength)]) =
        .valid ⟨none, some name, ⟨640, 360⟩, 30, "#000000", .blur, .real blur⟩ := by
    rw [checkProject, checkObject, @optional_eq_valid _ Keys.blurIntensity _ _ _ _ _ rfl hamount]
    rfl
  have htrack : checkTrack .byModel
      (.obj [("id", .str "t1"), ("name", .str name), ("elements", .arr values)]) =
        .valid ⟨"t1", some name, .media, shots⟩ := by
    rw [checkTrack, checkObject, @optional_eq_valid _ Keys.elements _ _ _ _ _ rfl hshots]
    rfl
  have htracks : checkList (checkTrack .byModel)
      (.arr [.obj [("id", .str "t1"), ("name", .str name), ("elements", .arr values)]]) =
        .valid [⟨"t1", some name, .media, shots⟩] := by
    rw [checkList, checkItems, htrack]
    rfl
  rw [sampleReelValue, checkDocument, checkObject, required_eq_valid rfl hproject,
    optional_eq_valid rfl htracks, optional_eq_valid rfl hmedia]
  rfl

theorem alike_sampleShot (id name other mediaId : String) (start length : Binary64) :
    (sampleShot id name mediaId start length).Alike (sampleShot id other mediaId start length) :=
  .media ⟨⟨rfl, rfl, rfl, rfl⟩, rfl, rfl, rfl, .nil, rfl⟩

theorem alike_sampleReel {name other : String} {strength : Binary64} {shots others : List Element}
    {media items : MediaItems}
    (hshots : List.Forall₂ Element.Alike (shots.mergeSort startsNoLater)
      (others.mergeSort startsNoLater))
    (hmedia : ∀ id ∈ shots.filterMap Element.mediaId?,
      Option.Rel MediaAsset.Alike (media.find? id) (items.find? id)) :
    (sampleReel name strength shots media).Alike (sampleReel other strength others items) := by
  refine ⟨⟨rfl, rfl, rfl, rfl, rfl⟩, .cons ⟨rfl, rfl, hshots⟩ .nil, fun id hid => ?_⟩
  rw [Document.referencedMediaIds, mem_firstSeen, sampleReel, List.flatMap_singleton] at hid
  exact hmedia id (((sortedElements_perm _).filterMap _).mem_iff.mp hid)

/-- The film is listed before the logo, which starts before it. -/
def sampleMorningValue : Json :=
  sampleReelValue "morning" (.int 5)
    [sampleShotValue "e1" "intro" "film" (.int 4) (.int 2),
     sampleShotValue "e2" "mark" "logo" (.int 1) (.int 2)]
    [("film", .obj [("type", .str "video"), ("url", .str "https://media.test/film.mp4")]),
     ("logo", .obj [("type", .str "image"), ("url", .str "https://media.test/logo.png")])]

def sampleMorning : Document :=
  sampleReel "morning" (.ofInt 5)
    [sampleShot "e1" "intro" "film" (.ofInt 4) (.ofInt 2),
     sampleShot "e2" "mark" "logo" (.ofInt 1) (.ofInt 2)]
    [("film", ⟨none, none, .video, some "https://media.test/film.mp4", none, none⟩),
     ("logo", ⟨none, none, .image, some "https://media.test/logo.png", none, none⟩)]

/-- The same under other names, with the logo listed first and a song that no element uses. -/
def sampleEveningValue : Json :=
  sampleReelValue "evening" (.int 5)
    [sampleShotValue "e2" "sign" "logo" (.int 1) (.int 2),
     sampleShotValue "e1" "opening" "film" (.int 4) (.int 2)]
    [("logo", .obj [("name", .str "sign"), ("type", .str "image"),
       ("url", .str "https://media.test/logo.png")]),
     ("song", .obj [("type", .str "audio"), ("url", .str "https://media.test/song.mp3")]),
     ("film", .obj [("type", .str "video"), ("url", .str "https://media.test/film.mp4")])]

def sampleEvening : Document :=
  sampleReel "evening" (.ofInt 5)
    [sampleShot "e2" "sign" "logo" (.ofInt 1) (.ofInt 2),
     sampleShot "e1" "opening" "film" (.ofInt 4) (.ofInt 2)]
    [("logo", ⟨none, some "sign", .image, some "https://media.test/logo.png", none, none⟩),
     ("song", ⟨none, none, .audio, some "https://media.test/song.mp3", none, none⟩),
     ("film", ⟨none, none, .video, some "https://media.test/film.mp4", none, none⟩)]

theorem valid_sampleMorning_sampleEvening :
    checkDocument .byModel sampleMorningValue = .valid sampleMorning ∧
      checkDocument .byModel sampleEveningValue = .valid sampleEvening := by
  have hone : checkNonnegativeReal (.int 1) = .valid (.ofInt 1) :=
    Checked.eq_valid_of_all (by decide +kernel)
  have hfour : checkNonnegativeReal (.int 4) = .valid (.ofInt 4) :=
    Checked.eq_valid_of_all (by decide +kernel)
  have hfive : checkNonnegativeReal (.int 5) = .valid (.ofInt 5) :=
    Checked.eq_valid_of_all (by decide +kernel)
  have htwo : checkPositiveReal (.int 2) = .valid (.ofInt 2) :=
    Checked.eq_valid_of_all (by decide +kernel)
  have hfilm (name : String) := checkElement_sampleShotValue "e1" name "film" hfour htwo
  have hlogo (name : String) := checkElement_sampleShotValue "e2" name "logo" hone htwo
  constructor
  · refine checkDocument_sampleReelValue "morning" hfive ?_ rfl
    rw [checkList, checkItems, checkItems, hfilm, hlogo]
    rfl
  · refine checkDocument_sampleReelValue "evening" hfive ?_ rfl
    rw [checkList, checkItems, checkItems, hfilm, hlogo]
    rfl

theorem mergeSort_pair {first second : Element} (h : startsNoLater first second = true) :
    [first, second].mergeSort startsNoLater = [first, second] :=
  List.mergeSort_of_pairwise (List.pairwise_pair.mpr h)

/-- Both tellings compile, and to the same. -/
theorem compile_meaning_sampleMorning :
    checkDocument .byModel sampleMorningValue = .valid sampleMorning ∧
      checkDocument .byModel sampleEveningValue = .valid sampleEvening ∧
      sampleMorning.Alike sampleEvening ∧
      ∃ compilation, compile {} sampleMorning = .ok compilation ∧
        compile {} sampleEvening = .ok compilation := by
  obtain ⟨hvalid, hvalid'⟩ := valid_sampleMorning_sampleEvening
  have hsorted := (compile_meaning hvalid).1 _ (List.mem_singleton_self _) _
    (rearranged_swap [] (by decide +kernel))
  rw [Track.sortedElements, Track.sortedElements, mergeSort_pair (by decide +kernel)] at hsorted
  have halike : sampleMorning.Alike sampleEvening := by
    refine alike_sampleReel ?_ fun id hid => ?_
    · rw [← hsorted, mergeSort_pair (by decide +kernel)]
      exact .cons (alike_sampleShot ..) (.cons (alike_sampleShot ..) .nil)
    · have hids : id = "film" ∨ id = "logo" := by simpa [sampleShot, Element.mediaId?] using hid
      rcases hids with rfl | rfl
      · exact .some ⟨rfl, rfl, rfl, rfl⟩
      · exact .some ⟨rfl, rfl, rfl, rfl⟩
  have hdelays : hasDelays sampleMorning = true := by decide +kernel
  obtain ⟨compilation, hcompile⟩ := exists_compile_of_hasDelays {} hdelays
  refine ⟨hvalid, hvalid', halike, compilation, hcompile, ?_⟩
  rw [← hcompile]
  exact (compile_meaning hvalid).2 sampleEvening halike (fun _ => rfl) {}

/-! ## Written strengths -/

/-- On a blurred backdrop, the third node of a graph with a video clip blurs the backdrop. -/
theorem getElem?_nodes_of_blur {options : Options} {document : Document}
    {compilation : Compilation} (h : compile options document = .ok compilation)
    (hblur : document.project.backdrop = .blur)
    (hvideo : clipsOfKind .video (select document).clips ≠ []) :
    let frame := Frame.of document options
    compilation.graph.nodes[2]? = some
      ⟨["v0"],
       [scaleFilter frame "increase",
        { name := "crop", args := [.int frame.width, .int frame.height] },
        { name := "boxblur", args := [.num frame.blurIntensity] }],
       ["v2"]⟩ := by
  obtain ⟨timed, -, -, hnodes, -⟩ := exists_timed h
  have hbackdrop : (Frame.of document options).backdrop = .blur := hblur
  obtain ⟨clip, rest, hclips⟩ := List.exists_cons_of_ne_nil hvideo
  rw [hnodes]
  simp only [pictureNodes, hclips, Brush.strokes, videoBrush, hbackdrop]
  rfl

theorem render_of_last (inputs outputs : List String) (first second last : Filter) :
    (Node.mk inputs [first, second, last] outputs).render =
      String.join (inputs.map Node.labelText) ++ first.render ++ "," ++ second.render ++ "," ++
        (last.render ++ String.join (outputs.map Node.labelText)) := by
  simp only [Node.render, List.map_cons, List.map_nil, String.intercalate_cons_cons,
    String.intercalate_singleton, String.append_assoc]

/-- Graphs of a blurred video clip that are written alike write its strength alike. -/
theorem render_strength_eq {options : Options} {document other : Document}
    {before after : Compilation} (h : document.Alike other)
    (hbefore : compile options document = .ok before)
    (hafter : compile options other = .ok after)
    (hblur : document.project.backdrop = .blur)
    (hvideo : clipsOfKind .video (select document).clips ≠ [])
    (hsame : before.graph.renderedNodes = after.graph.renderedNodes) :
    Filter.render { name := "boxblur", args := [.num document.project.blurIntensity] } =
      Filter.render { name := "boxblur", args := [.num other.project.blurIntensity] } := by
  have hvideo' : clipsOfKind .video (select other).clips ≠ [] := by
    have hclips : List.Forall₂ Clip.Alike (clipsOfKind .video (select document).clips)
        (clipsOfKind .video (select other).clips) :=
      List.rel_filter (fun _ _ hab => by simp only [hab.kind]) (select_alike h).clips
    exact fun hnil => hvideo (List.forall₂_nil_right_iff.mp (hnil ▸ hclips))
  have hnode := getElem?_nodes_of_blur hbefore hblur hvideo
  have hnode' := getElem?_nodes_of_blur hafter (h.project.backdrop.symm.trans hblur) hvideo'
  have hthird := congrArg (fun texts => texts[2]?) hsame
  simp only [Filter.Graph.renderedNodes, List.getElem?_map, hnode, hnode', Option.map_some,
    Option.some.injEq, render_of_last, Frame.of, h.project.canvas, scaleFilter] at hthird
  exact (String.append_left_inj _).mp ((String.append_right_inj _).mp hthird)

/-- A double is not written with a single character. -/
theorem one_lt_length_realDisplay (x : Binary64) : 1 < (Json.realDisplay x).length := by
  cases x with
  | nan => decide
  | infinite negative => cases negative <;> decide
  | finite negative units => exact Decimal.Layout.one_lt_length_finite rfl negative units

theorem length_realDisplay_le (x : Binary64) :
    (Json.realDisplay x).length ≤ (Filter.valueText (.num (.real x))).length := by
  show _ ≤ (if _ then Json.realDisplay x else
    if _ then Filter.quote (Json.realDisplay x) else Json.realDisplay x).length
  split
  · exact Nat.le_refl _
  · split
    · simp only [Filter.quote, String.length_append]
      omega
    · exact Nat.le_refl _

/-- The integer that stands for a strength that was left out is not written as a double is. -/
theorem render_eight_ne (x : Binary64) :
    Filter.render { name := "boxblur", args := [.num (.int 8)] } ≠
      Filter.render { name := "boxblur", args := [.num (.real x)] } := by
  intro hsame
  have height : Filter.render { name := "boxblur", args := [.num (.int 8)] } =
      "boxblur=" ++ "8" := by decide
  have hreal : Filter.render { name := "boxblur", args := [.num (.real x)] } =
      "boxblur=" ++ Filter.valueText (.num (.real x)) := by
    simp only [Filter.render, Filter.parameters, List.map_cons, List.map_nil, List.append_nil,
      String.intercalate_singleton]
    rfl
  rw [height, hreal] at hsame
  have hlength := congrArg String.length ((String.append_right_inj _).mp hsame)
  have hone : "8".length = 1 := rfl
  have htext := one_lt_length_realDisplay x
  have hmore := length_realDisplay_le x
  omega

/-! ## Documents that were stored -/

theorem alike_reloaded_effect {effect : Effect} (hfinite : effect.toJson.hasFiniteNumbers = true) :
    effect.Alike effect.reloaded := by
  cases effect with
  | named name => exact .named name
  | custom fields =>
      have hsame := Json.obj.inj (Json.asWritten_of_hasFiniteNumbers hfinite)
      exact .custom fun key => by rw [hsame]

theorem filter_isFinite {offset : Option Binary64}
    (hfinite : (Json.ofOption real offset).hasFiniteNumbers = true) :
    offset.filter Binary64.isFinite = offset := by
  cases offset with
  | none => rfl
  | some x => exact Option.filter_some_pos hfinite

theorem alike_reloaded_element {element : Element}
    (hfinite : (element.toJson asReal).hasFiniteNumbers = true) :
    element.Alike element.reloaded := by
  cases element with
  | media element =>
      simp only [Element.toJson, MediaElement.toJson, Slot.fields, Json.hasFiniteNumbers,
        Json.fieldsHaveFiniteNumbers, List.cons_append, List.nil_append, Bool.and_eq_true,
        Json.itemsHaveFiniteNumbers_iff, List.forall_mem_map] at hfinite
      obtain ⟨-, -, -, -, -, -, -, -, -, heffects, -⟩ := hfinite
      refine .media ⟨⟨rfl, rfl, rfl, rfl⟩, rfl, rfl, rfl, ?_, rfl⟩
      refine List.forall₂_map_right_iff.mpr (List.forall₂_same.mpr fun effect hmem => ?_)
      exact alike_reloaded_effect (heffects effect hmem)
  | text element =>
      simp only [Element.toJson, TextElement.toJson, Slot.fields, Json.hasFiniteNumbers,
        Json.fieldsHaveFiniteNumbers, List.cons_append, List.nil_append,
        Bool.and_eq_true] at hfinite
      obtain ⟨-, -, -, -, -, -, -, -, -, -, hx, hy, -⟩ := hfinite
      exact .text ⟨⟨rfl, rfl, rfl, rfl⟩, rfl, rfl, rfl, rfl, (filter_isFinite hx).symm,
        (filter_isFinite hy).symm, rfl⟩

/-- A document with finite numbers says the same once it has been stored and loaded. -/
theorem alike_reloaded {document : Document}
    (hfinite : (document.toJson asReal).hasFiniteNumbers = true) :
    document.Alike document.reloaded := by
  simp only [Document.toJson, Json.hasFiniteNumbers, Json.fieldsHaveFiniteNumbers,
    Bool.and_eq_true, Json.itemsHaveFiniteNumbers_iff, List.forall_mem_map] at hfinite
  obtain ⟨-, htracks, -⟩ := hfinite
  refine ⟨⟨rfl, rfl, rfl, rfl, rfl⟩, ?_, fun id _ => ?_⟩
  · refine List.forall₂_map_right_iff.mpr (List.forall₂_same.mpr fun track hmem => ?_)
    have htrack := htracks track hmem
    simp only [Track.toJson, Json.hasFiniteNumbers, Json.fieldsHaveFiniteNumbers,
      Bool.and_eq_true, Json.itemsHaveFiniteNumbers_iff, List.forall_mem_map] at htrack
    obtain ⟨-, -, -, helements, -⟩ := htrack
    refine ⟨rfl, rfl, ?_⟩
    rw [sortedElements_reloaded]
    refine List.forall₂_map_right_iff.mpr (List.forall₂_same.mpr fun element helement => ?_)
    exact alike_reloaded_element
      (helements element ((sortedElements_perm track).mem_iff.mp helement))
  · show Option.Rel _ (document.mediaItems.find? id) (document.mediaItems.find? id)
    cases document.mediaItems.find? id with
    | none => exact .none
    | some asset => exact .some ⟨rfl, rfl, rfl, rfl⟩

/-- A timeline with one film on a blurred backdrop, whose strength is left out. -/
def sampleBackdrop : Json :=
  .obj
    [("project", .obj
      [("canvasSize", .obj [("width", .int 640), ("height", .int 360)]),
       ("backgroundType", .str "blur")]),
     ("tracks", .arr [.obj
      [("id", .str "t1"),
       ("type", .str "media"),
       ("elements", .arr [.obj
        [("type", .str "media"),
         ("id", .str "e1"),
         ("startTime", .num (.int 4)),
         ("duration", .num (.int 2)),
         ("mediaId", .str "film")]])]]),
     ("mediaItems", .obj
      [("film", .obj
        [("type", .str "video"), ("url", .str "https://media.test/film.mp4")])])]

theorem regular_sampleBackdrop : sampleBackdrop.Regular := by
  simp [sampleBackdrop, Json.int, Json.Regular, Json.RegularItems, Json.RegularFields,
    regular_of_natAbs_lt]

/-- A sample that was checked and passes a test is stored, checked again and says the same. -/
theorem exists_reloaded_sampleBackdrop (test : Document → Bool)
    (h : (checkDocument .byModel sampleBackdrop).all (fun document =>
      (document.toJson asReal).hasFiniteNumbers && document.hasFiniteAmounts &&
        test document) = true) :
    ∃ document, checkDocument .byModel sampleBackdrop = .valid document ∧
      checkDocument .byModel (document.toJson asReal) = .valid document.reloaded ∧
      document.Alike document.reloaded ∧ test document = true := by
  obtain ⟨document, hvalid, hall⟩ := Checked.all_eq_true.mp h
  obtain ⟨hboth, htest⟩ := Bool.and_eq_true_iff.mp hall
  obtain ⟨hfinite, hamounts⟩ := Bool.and_eq_true_iff.mp hboth
  have hagain := restores_document .byModel _ _ regular_sampleBackdrop hvalid
  rw [Json.asWritten_of_hasFiniteNumbers hfinite] at hagain
  exact ⟨document, hvalid, (hagain _).mpr ⟨hamounts, rfl⟩, alike_reloaded hfinite, htest⟩

/-- On a blurred backdrop whose strength is left out, a film compiles to other filters once it has
been stored and checked again, though it says the same: `boxblur=8` becomes `boxblur=8.0`. -/
theorem compile_ne_sampleBackdrop :
    ∃ document other, checkDocument .byModel sampleBackdrop = .valid document ∧
      checkDocument .byModel (document.toJson asReal) = .valid other ∧
      document.Alike other ∧
      ∃ before after, compile {} document = .ok before ∧ compile {} other = .ok after ∧
        before.graph.renderedNodes ≠ after.graph.renderedNodes := by
  obtain ⟨document, hvalid, hagain, halike, htest⟩ := exists_reloaded_sampleBackdrop
    (fun document => hasDelays document && hasDelays document.reloaded &&
      document.project.backdrop = .blur && document.project.blurIntensity = .int 8 &&
      !(clipsOfKind .video (select document).clips).isEmpty) (by decide +kernel)
  simp only [Bool.and_eq_true, decide_eq_true_eq, Bool.not_eq_true', List.isEmpty_eq_false_iff]
    at htest
  obtain ⟨⟨⟨⟨hdelays, hdelays'⟩, hblur⟩, hstrength⟩, hvideo⟩ := htest
  obtain ⟨before, hbefore⟩ := exists_compile_of_hasDelays {} hdelays
  obtain ⟨after, hafter⟩ := exists_compile_of_hasDelays {} hdelays'
  refine ⟨document, document.reloaded, hvalid, hagain, halike, before, after, hbefore, hafter, ?_⟩
  intro hsame
  have hstrengths := render_strength_eq halike hbefore hafter hblur hvideo hsame
  rw [hstrength] at hstrengths
  exact render_eight_ne _ hstrengths

end Montage.Compile
