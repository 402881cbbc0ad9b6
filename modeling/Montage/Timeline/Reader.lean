/-
  Montage.Timeline.Reader

  Reading timeline documents from JSON values.  Every problem is reported, in the
  order of the fields.  Each field is found under its documents' spelling or its plain
  one, and unknown fields are ignored.
-/
import Montage.Json.Display
import Montage.Timeline.Basic
import Montage.Validation.Scalars

namespace Montage.Timeline

open Montage.Number Montage.Validation

/-! ## Objects -/

/-- What a value that is no object is told: the name of the model it should have
    been, or that it has no fields. -/
inductive ObjectRule where
  | byModel
  | byFields
  deriving DecidableEq, Repr

/-- The problem of a value that is no object. -/
def ObjectRule.cause (rule : ObjectRule) (model : String) : Cause :=
  match rule with
  | .byModel => .modelType model
  | .byFields => .attributesType

/-- A model read from the fields of an object. -/
def checkObject {α : Type} (rule : ObjectRule) (model : String)
    (read : List (String × Json) → Checked α) : Json → Checked α
  | .obj fields => read fields
  | value => .fail (rule.cause model) value

/-! ## The spellings of fields -/

namespace Keys

def id : Key := .same "id"
def name : Key := .same "name"
def type : Key := .same "type"
def width : Key := .same "width"
def height : Key := .same "height"
def fps : Key := .same "fps"
def canvasSize : Key := ⟨"canvasSize", "canvas_size"⟩
def backgroundColor : Key := ⟨"backgroundColor", "background_color"⟩
def backgroundType : Key := ⟨"backgroundType", "background_type"⟩
def blurIntensity : Key := ⟨"blurIntensity", "blur_intensity"⟩
def startTime : Key := ⟨"startTime", "start_time"⟩
def duration : Key := .same "duration"
def trimStart : Key := ⟨"trimStart", "trim_start"⟩
def mediaId : Key := ⟨"mediaId", "media_id"⟩
def muted : Key := .same "muted"
def volume : Key := .same "volume"
def effects : Key := .same "effects"
def position : Key := .same "position"
def content : Key := .same "content"
def fontSize : Key := ⟨"fontSize", "font_size"⟩
def color : Key := .same "color"
def x : Key := .same "x"
def y : Key := .same "y"
def elements : Key := .same "elements"
def url : Key := .same "url"
def project : Key := .same "project"
def tracks : Key := .same "tracks"
def mediaItems : Key := ⟨"mediaItems", "media_items"⟩

end Keys

/-! ## Words -/

def backdropWords : List (String × Backdrop) := [("color", .color), ("blur", .blur)]

def trackWords : List (String × TrackKind) :=
  [("media", .media), ("text", .text), ("audio", .audio)]

def mediaWords : List (String × MediaKind) :=
  [("video", .video), ("image", .image), ("audio", .audio)]

/-! ## Project -/

def checkCanvas (rule : ObjectRule) : Json → Checked Canvas :=
  checkObject rule "CanvasSize" fun fields =>
    Canvas.mk <$> required Keys.width checkPositive fields
      <*> required Keys.height checkPositive fields

def checkProject (rule : ObjectRule) : Json → Checked Project :=
  checkObject rule "ProjectSettings" fun fields =>
    Project.mk <$> optional Keys.id none (checkOption checkText) fields
      <*> optional Keys.name none (checkOption checkText) fields
      <*> required Keys.canvasSize (checkCanvas rule) fields
      <*> optional Keys.fps 30 checkPositive fields
      <*> optional Keys.backgroundColor "#000000" checkText fields
      <*> optional Keys.backgroundType .color (checkWord backdropWords) fields
      <*> optional Keys.blurIntensity (.int 8) (fun v => (checkNonnegativeReal v).map .real) fields

/-! ## Elements -/

/-- An effect; a value that is neither of its two forms has both problems. -/
def checkEffect : Json → Checked Effect
  | .str name => .valid (.named name)
  | .obj fields => .valid (.custom fields)
  | value =>
    .invalid
      [(Problem.of .stringType value).under (.field "str"),
       (Problem.of .dictType value).under (.field "dict[str,any]")]

def checkSlot (fields : List (String × Json)) : Checked Slot :=
  Slot.mk <$> required Keys.id checkText fields
    <*> optional Keys.name none (checkOption checkText) fields
    <*> required Keys.startTime checkNonnegativeReal fields
    <*> required Keys.duration checkPositiveReal fields
    <*> optional Keys.trimStart (.int 0) (fun v => (checkNonnegativeReal v).map .real) fields

/-- The word that an element carries as its type, which decides nothing by itself. -/
def checkTypeWord (word : String) (fields : List (String × Json)) : Checked Unit :=
  optional Keys.type () (checkWord [(word, ())]) fields

def checkMediaElement (rule : ObjectRule) : Json → Checked MediaElement :=
  checkObject rule "MediaElement" fun fields =>
    (fun slot (_ : Unit) => MediaElement.mk slot) <$> checkSlot fields
      <*> checkTypeWord "media" fields
      <*> required Keys.mediaId checkText fields
      <*> optional Keys.muted false checkFlag fields
      <*> optional Keys.volume (.ofNat 1) checkNonnegativeReal fields
      <*> optional Keys.effects [] (checkList checkEffect) fields
      <*> optional Keys.position none (checkOption checkText) fields

def checkTextElement (rule : ObjectRule) : Json → Checked TextElement :=
  checkObject rule "TextElement" fun fields =>
    (fun slot (_ : Unit) => TextElement.mk slot) <$> checkSlot fields
      <*> checkTypeWord "text" fields
      <*> optional Keys.content "" checkText fields
      <*> optional Keys.fontSize 48 checkPositive fields
      <*> optional Keys.color "#ffffff" checkText fields
      <*> optional Keys.backgroundColor "transparent" checkText fields
      <*> optional Keys.x none (checkOption checkReal) fields
      <*> optional Keys.y none (checkOption checkReal) fields
      <*> optional Keys.position none (checkOption checkText) fields

/-- An element, read as the model that its type names. -/
def checkElement (rule : ObjectRule) (value : Json) : Checked Element :=
  match value with
  | .obj fields =>
    match Json.lookup "type" fields with
    | none => .fail (.tagNotFound "type") value
    | some tag =>
      match tag with
      | .str "media" => ((checkMediaElement rule value).map .media).under (.field "media")
      | .str "text" => ((checkTextElement rule value).map .text).under (.field "text")
      | _ => .fail (.tagInvalid "type" tag.display ["media", "text"]) value
  | _ => .fail .attributesType value

/-! ## Tracks, media and documents -/

def checkTrack (rule : ObjectRule) : Json → Checked Track :=
  checkObject rule "Track" fun fields =>
    Track.mk <$> required Keys.id checkText fields
      <*> optional Keys.name none (checkOption checkText) fields
      <*> optional Keys.type .media (checkWord trackWords) fields
      <*> optional Keys.elements [] (checkList (checkElement rule)) fields

def checkAsset (rule : ObjectRule) : Json → Checked MediaAsset :=
  checkObject rule "MediaAsset" fun fields =>
    MediaAsset.mk <$> optional Keys.id none (checkOption checkText) fields
      <*> optional Keys.name none (checkOption checkText) fields
      <*> required Keys.type (checkWord mediaWords) fields
      <*> optional Keys.url none (checkOption checkText) fields
      <*> optional Keys.width none (checkOption checkPositive) fields
      <*> optional Keys.height none (checkOption checkPositive) fields

def checkDocument (rule : ObjectRule) : Json → Checked Document :=
  checkObject rule "TimelineDocument" fun fields =>
    Document.mk <$> required Keys.project (checkProject rule) fields
      <*> optional Keys.tracks [] (checkList (checkTrack rule)) fields
      <*> optional Keys.mediaItems [] (checkMap (checkAsset rule)) fields

end Montage.Timeline
