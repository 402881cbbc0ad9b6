/-
  Montage.Proofs.Timeline.Respelled

  Timelines whose fields are spelled in another way.  Any field of any model of a timeline may
  be given under its other spelling: the timeline is read as the same document, or has the same
  problems, each of which names the fields on its way as the timeline at hand does.  So the
  spots of two such timelines are the same, but their names may differ.
-/
import Montage.Proofs.Validation.Respelling
import Montage.Timeline.Reader

namespace Montage.Timeline

open Montage.Validation

/-! ## Shapes of the models -/

/-- A field whose values do not differ. -/
def plain (key : Key) : Part := ⟨key, .exact⟩

def canvasShape : Shape where
  parts := [plain Keys.width, plain Keys.height]
  apart := by decide
  whole := by decide

def canvasPart : Part := ⟨Keys.canvasSize, .object canvasShape⟩

def projectShape : Shape where
  parts :=
    [plain Keys.id, plain Keys.name, canvasPart, plain Keys.fps, plain Keys.backgroundColor,
     plain Keys.backgroundType, plain Keys.blurIntensity]
  apart := by decide
  whole := by decide

def slotParts : List Part :=
  [plain Keys.id, plain Keys.name, plain Keys.startTime, plain Keys.duration,
   plain Keys.trimStart, plain Keys.type]

/-- The keys of an effect are no fields. -/
def mediaElementShape : Shape where
  parts := slotParts ++
    [plain Keys.mediaId, plain Keys.muted, plain Keys.volume, plain Keys.effects,
     plain Keys.position]
  apart := by decide
  whole := by decide

def textElementShape : Shape where
  parts := slotParts ++
    [plain Keys.content, plain Keys.fontSize, plain Keys.color, plain Keys.backgroundColor,
     plain Keys.x, plain Keys.y, plain Keys.position]
  apart := by decide
  whole := by decide

/-- Whether two values are the same, or elements of one type that are the same but for
    spellings. -/
inductive ElementAlike : Json → Json → Prop
  | same (value : Json) : ElementAlike value value
  | media {turned : List Key} {fields others : List (String × Json)}
      (type : Json.lookup "type" fields = some (.str "media"))
      (respells : mediaElementShape.Respells turned fields others) :
      ElementAlike (.obj fields) (.obj others)
  | text {turned : List Key} {fields others : List (String × Json)}
      (type : Json.lookup "type" fields = some (.str "text"))
      (respells : textElementShape.Respells turned fields others) :
      ElementAlike (.obj fields) (.obj others)

def elementLikeness : Likeness where
  alike := ElementAlike
  refl := .same
  isEncodable_eq := by
    intro value other h
    cases h with
    | same => rfl
    | media type respells => exact respells.isEncodable_eq
    | text type respells => exact respells.isEncodable_eq

def elementsPart : Part := ⟨Keys.elements, elementLikeness.list⟩

def trackShape : Shape where
  parts := [plain Keys.id, plain Keys.name, plain Keys.type, elementsPart]
  apart := by decide
  whole := by decide

def assetShape : Shape where
  parts :=
    [plain Keys.id, plain Keys.name, plain Keys.type, plain Keys.url, plain Keys.width,
     plain Keys.height]
  apart := by decide
  whole := by decide

def projectPart : Part := ⟨Keys.project, .object projectShape⟩

def tracksPart : Part := ⟨Keys.tracks, (Likeness.object trackShape).list⟩

/-- The ids of media are no fields. -/
def mediaItemsPart : Part := ⟨Keys.mediaItems, (Likeness.object assetShape).map⟩

def documentShape : Shape where
  parts := [projectPart, tracksPart, mediaItemsPart]
  apart := by decide
  whole := by decide

/-! ## Reading -/

variable (rule : ObjectRule)

/-- A model respects spellings if the reading of its fields does. -/
theorem respects_object {α : Type} {shape : Shape} {rule : ObjectRule} {model : String}
    {read : List (String × Json) → Checked α}
    (h : ∀ turned fields others, shape.Respells turned fields others →
      (read fields).Matches (.obj fields) (.obj others) (read others)) :
    (Likeness.object shape).Respects (checkObject rule model read) := by
  intro value other halike
  cases halike with
  | same => exact .refl value _
  | @obj turned fields others respells => exact h turned fields others respells

theorem respects_canvas : (Likeness.object canvasShape).Respects (checkCanvas rule) := by
  refine respects_object fun turned fields others h => ?_
  refine .ap (.fmap Canvas.mk ?width) ?height
  all_goals exact h.matches_required_exact (by simp [canvasShape, plain]) _

theorem respects_project : (Likeness.object projectShape).Respects (checkProject rule) := by
  refine respects_object fun turned fields others h => ?_
  refine .ap (.ap (.ap (.ap (.ap (.ap (.fmap Project.mk ?_) ?_) ?canvas) ?_) ?_) ?_) ?_
  case canvas =>
    exact h.matches_required canvasPart (by simp [projectShape]) (respects_canvas rule)
  all_goals exact h.matches_optional_exact (by simp [projectShape, plain]) _ _

/-- The fields of a slot, among the other fields of its element. -/
theorem matches_slot {shape : Shape} {turned : List Key} {fields others : List (String × Json)}
    (h : shape.Respells turned fields others) (hparts : ∀ part ∈ slotParts, part ∈ shape.parts) :
    (checkSlot fields).Matches (.obj fields) (.obj others) (checkSlot others) := by
  refine .ap (.ap (.ap (.ap (.fmap Slot.mk ?id) ?name) ?startTime) ?duration) ?trimStart
  case id => exact h.matches_required_exact (hparts _ (by simp [slotParts, plain])) _
  case name => exact h.matches_optional_exact (hparts _ (by simp [slotParts, plain])) _ _
  case startTime => exact h.matches_required_exact (hparts _ (by simp [slotParts, plain])) _
  case duration => exact h.matches_required_exact (hparts _ (by simp [slotParts, plain])) _
  case trimStart => exact h.matches_optional_exact (hparts _ (by simp [slotParts, plain])) _ _

theorem respects_mediaElement :
    (Likeness.object mediaElementShape).Respects (checkMediaElement rule) := by
  refine respects_object fun turned fields others h => ?_
  refine .ap (.ap (.ap (.ap (.ap (.ap (.fmap _ ?slot) ?_) ?mediaId) ?_) ?_) ?_) ?_
  case slot => exact matches_slot h fun part hpart => List.mem_append_left _ hpart
  case mediaId => exact h.matches_required_exact (by simp [mediaElementShape, plain]) _
  all_goals exact h.matches_optional_exact (by simp [mediaElementShape, slotParts, plain]) _ _

theorem respects_textElement :
    (Likeness.object textElementShape).Respects (checkTextElement rule) := by
  refine respects_object fun turned fields others h => ?_
  refine .ap (.ap (.ap (.ap (.ap (.ap (.ap (.ap (.fmap _ ?slot) ?_) ?_) ?_) ?_) ?_) ?_) ?_) ?_
  case slot => exact matches_slot h fun part hpart => List.mem_append_left _ hpart
  all_goals exact h.matches_optional_exact (by simp [textElementShape, slotParts, plain]) _ _

/-- What is read of an element as the model that its type names. -/
theorem matches_model {α : Type} {wrap : α → Element} {word : String}
    {fields others : List (String × Json)} {result twin : Checked α}
    (htype : Json.lookup "type" fields = some (.str word))
    (htype' : Json.lookup "type" others = some (.str word))
    (h : result.Matches (.obj fields) (.obj others) twin) :
    ((result.map wrap).under (.field word)).Matches (.obj fields) (.obj others)
      ((twin.map wrap).under (.field word)) :=
  (h.fmap wrap).under fun _ _ => .model htype htype'

theorem respects_element : elementLikeness.Respects (checkElement rule) := by
  intro value other halike
  cases halike with
  | same => exact .refl value _
  | @media turned fields others type respells =>
      have htype : Json.lookup "type" others = some (.str "media") := by
        rw [← type]
        exact (respells.lookup_eq (by simp [mediaElementShape, slotParts, plain, Keys.type])).symm
      have hread := respects_mediaElement rule _ _ (.obj respells)
      simp only [checkElement, type, htype]
      exact matches_model type htype hread
  | @text turned fields others type respells =>
      have htype : Json.lookup "type" others = some (.str "text") := by
        rw [← type]
        exact (respells.lookup_eq (by simp [textElementShape, slotParts, plain, Keys.type])).symm
      have hread := respects_textElement rule _ _ (.obj respells)
      simp only [checkElement, type, htype]
      exact matches_model type htype hread

theorem respects_track : (Likeness.object trackShape).Respects (checkTrack rule) := by
  refine respects_object fun turned fields others h => ?_
  refine .ap (.ap (.ap (.fmap Track.mk ?id) ?_) ?_) ?elements
  case id => exact h.matches_required_exact (by simp [trackShape, plain]) _
  case elements =>
    exact h.matches_optional elementsPart (by simp [trackShape]) [] (respects_element rule).list
  all_goals exact h.matches_optional_exact (by simp [trackShape, plain]) _ _

theorem respects_asset : (Likeness.object assetShape).Respects (checkAsset rule) := by
  refine respects_object fun turned fields others h => ?_
  refine .ap (.ap (.ap (.ap (.ap (.fmap MediaAsset.mk ?_) ?_) ?kind) ?_) ?_) ?_
  case kind => exact h.matches_required_exact (by simp [assetShape, plain]) _
  all_goals exact h.matches_optional_exact (by simp [assetShape, plain]) _ _

/-- Two timelines that are the same but for the spelling of their fields are read as the same
    document, or have the same problems at the same spots. -/
theorem checkDocument_matches_of_alike (rule : ObjectRule) {value other : Json}
    (h : documentShape.Alike value other) :
    (checkDocument rule value).Matches value other (checkDocument rule other) := by
  refine respects_object (fun turned fields others h => ?_) value other h
  refine .ap (.ap (.fmap Document.mk ?project) ?tracks) ?mediaItems
  case project =>
    exact h.matches_required projectPart (by simp [documentShape]) (respects_project rule)
  case tracks =>
    exact h.matches_optional tracksPart (by simp [documentShape]) [] (respects_track rule).list
  case mediaItems =>
    exact h.matches_optional mediaItemsPart (by simp [documentShape]) [] (respects_asset rule).map

/-- A timeline with a film that starts too early and names no medium, under these spellings. -/
def sampleEarly (canvas start : String) : Json :=
  .obj
    [("project", .obj [(canvas, .obj [("width", .int 640), ("height", .int 360)])]),
     ("tracks", .arr [.obj
      [("id", .str "t1"),
       ("elements", .arr [.obj
        [("type", .str "media"), ("id", .str "e1"), (start, .int (-1)), ("duration", .int 2)]])]])]

theorem alike_sampleEarly : documentShape.Alike (sampleEarly "canvasSize" "startTime")
    (sampleEarly "canvas_size" "start_time") := by
  have hproject : projectShape.Respells [Keys.canvasSize]
      [("canvasSize", .obj [("width", .int 640), ("height", .int 360)])]
      [("canvas_size", .obj [("width", .int 640), ("height", .int 360)])] :=
    ⟨by decide, by decide, .cons (.same _ _ "canvasSize" _) .nil⟩
  have helement : mediaElementShape.Respells [Keys.startTime]
      [("type", .str "media"), ("id", .str "e1"), ("startTime", .int (-1)), ("duration", .int 2)]
      [("type", .str "media"), ("id", .str "e1"), ("start_time", .int (-1)),
       ("duration", .int 2)] :=
    ⟨by decide, by decide, .cons (.same _ _ "type" _) (.cons (.same _ _ "id" _)
      (.cons (.same _ _ "startTime" _) (.cons (.same _ _ "duration" _) .nil)))⟩
  have helements : ListAlike ElementAlike _ _ := .items (.cons (.media rfl helement) .nil)
  have htrack : trackShape.Respells [] [("id", .str "t1"), ("elements", _)]
      [("id", .str "t1"), ("elements", _)] :=
    ⟨nofun, nofun, .cons (.same _ _ "id" _)
      (.cons (.of_part elementsPart (by simp [trackShape]) rfl helements) .nil)⟩
  have htracks : ListAlike trackShape.Alike _ _ := .items (.cons (.obj htrack) .nil)
  have hdocument : documentShape.Respells [] [("project", _), ("tracks", _)]
      [("project", _), ("tracks", _)] :=
    ⟨nofun, nofun, .cons (.of_part projectPart (by simp [documentShape]) rfl (.obj hproject))
      (.cons (.of_part tracksPart (by simp [documentShape]) rfl htracks) .nil)⟩
  exact .obj hdocument

theorem checkDocument_matches_sampleEarly :
    documentShape.Alike (sampleEarly "canvasSize" "startTime")
      (sampleEarly "canvas_size" "start_time") ∧
    (checkDocument .byModel (sampleEarly "canvasSize" "startTime")).Matches
      (sampleEarly "canvasSize" "startTime") (sampleEarly "canvas_size" "start_time")
      (checkDocument .byModel (sampleEarly "canvas_size" "start_time")) :=
  ⟨alike_sampleEarly, checkDocument_matches_of_alike .byModel alike_sampleEarly⟩

/-- The way to the only element of a timeline. -/
def wayToFilm : List Step :=
  [.field "tracks", .index 0, .field "elements", .index 0, .field "media"]

/-- A problem names a field as it is spelled in the value at hand. -/
theorem checkDocument_sampleEarly_ne :
    documentShape.Alike (sampleEarly "canvasSize" "startTime")
      (sampleEarly "canvas_size" "start_time") ∧
    (checkDocument .byModel (sampleEarly "canvasSize" "startTime")).problems.map Problem.path =
      [wayToFilm ++ [.field "startTime"], wayToFilm ++ [.field "mediaId"]] ∧
    (checkDocument .byModel (sampleEarly "canvas_size" "start_time")).problems.map Problem.path =
      [wayToFilm ++ [.field "start_time"], wayToFilm ++ [.field "mediaId"]] ∧
    checkDocument .byModel (sampleEarly "canvasSize" "startTime") ≠
      checkDocument .byModel (sampleEarly "canvas_size" "start_time") := by
  have hcamel : (checkDocument .byModel
      (sampleEarly "canvasSize" "startTime")).problems.map Problem.path =
      [wayToFilm ++ [.field "startTime"], wayToFilm ++ [.field "mediaId"]] := by
    decide +kernel
  have hsnake : (checkDocument .byModel
      (sampleEarly "canvas_size" "start_time")).problems.map Problem.path =
      [wayToFilm ++ [.field "start_time"], wayToFilm ++ [.field "mediaId"]] := by
    decide +kernel
  refine ⟨alike_sampleEarly, hcamel, hsnake, fun hsame => ?_⟩
  rw [hsame, hsnake] at hcamel
  exact absurd hcamel (by decide)

end Montage.Timeline
