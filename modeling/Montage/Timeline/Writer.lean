/-
  Montage.Timeline.Writer

  Timeline documents as JSON values and as the text they are stored in: all fields in
  the order of their models, defaults included.  How a number that may still be an
  integer default is written is a parameter; the stored text writes it as a double.
-/
import Montage.Fault
import Montage.Json.Encodable
import Montage.Json.Writer
import Montage.Timeline.Basic

namespace Montage.Timeline

open Montage.Number

/-- How numbers that may be integer defaults are written. -/
abbrev ScalarStyle := Scalar → Json

/-- Numbers as they are. -/
def asGiven : ScalarStyle := .num

/-- Every number as a double. -/
def asReal : ScalarStyle := fun x => .num (.real x.toRealOrInfinite)

def real (x : Binary64) : Json := .num (.real x)

def optionalText : Option String → Json := Json.ofOption .str

/-! ## Words -/

def Backdrop.word : Backdrop → String
  | .color => "color"
  | .blur => "blur"

def TrackKind.word : TrackKind → String
  | .media => "media"
  | .text => "text"
  | .audio => "audio"

def MediaKind.word : MediaKind → String
  | .video => "video"
  | .image => "image"
  | .audio => "audio"

/-! ## Models -/

def Canvas.toJson (canvas : Canvas) : Json :=
  .obj [("width", .int canvas.width), ("height", .int canvas.height)]

def Project.toJson (style : ScalarStyle) (project : Project) : Json :=
  .obj
    [("id", optionalText project.id),
     ("name", optionalText project.name),
     ("canvasSize", project.canvas.toJson),
     ("fps", .int project.fps),
     ("backgroundColor", .str project.backgroundColor),
     ("backgroundType", .str project.backdrop.word),
     ("blurIntensity", style project.blurIntensity)]

def Effect.toJson : Effect → Json
  | .named name => .str name
  | .custom fields => .obj fields

def Slot.fields (style : ScalarStyle) (slot : Slot) : List (String × Json) :=
  [("id", .str slot.id),
   ("name", optionalText slot.name),
   ("startTime", real slot.startTime),
   ("duration", real slot.duration),
   ("trimStart", style slot.trimStart)]

def MediaElement.toJson (style : ScalarStyle) (element : MediaElement) : Json :=
  .obj (element.toSlot.fields style ++
    [("type", .str "media"),
     ("mediaId", .str element.mediaId),
     ("muted", .bool element.muted),
     ("volume", real element.volume),
     ("effects", .arr (element.effects.map Effect.toJson)),
     ("position", optionalText element.position)])

def TextElement.toJson (style : ScalarStyle) (element : TextElement) : Json :=
  .obj (element.toSlot.fields style ++
    [("type", .str "text"),
     ("content", .str element.content),
     ("fontSize", .int element.fontSize),
     ("color", .str element.color),
     ("backgroundColor", .str element.backgroundColor),
     ("x", Json.ofOption real element.x),
     ("y", Json.ofOption real element.y),
     ("position", optionalText element.position)])

def Element.toJson (style : ScalarStyle) : Element → Json
  | .media element => element.toJson style
  | .text element => element.toJson style

def Track.toJson (style : ScalarStyle) (track : Track) : Json :=
  .obj
    [("id", .str track.id),
     ("name", optionalText track.name),
     ("type", .str track.kind.word),
     ("elements", .arr (track.elements.map (Element.toJson style)))]

def MediaAsset.toJson (asset : MediaAsset) : Json :=
  .obj
    [("id", optionalText asset.id),
     ("name", optionalText asset.name),
     ("type", .str asset.kind.word),
     ("url", optionalText asset.url),
     ("width", Json.ofOption .int asset.width),
     ("height", Json.ofOption .int asset.height)]

def Document.toJson (style : ScalarStyle) (document : Document) : Json :=
  .obj
    [("project", document.project.toJson style),
     ("tracks", .arr (document.tracks.map (Track.toJson style))),
     ("mediaItems", .obj (document.mediaItems.map fun (id, asset) => (id, asset.toJson)))]

/-! ## Stored texts -/

/-- How many values may lie inside each other in an effect, itself included. -/
def effectLevels : Nat := 254

/-- How many values an effect lies inside of: in an element, in a track and in a
    document. -/
def levelsInElement : Nat := 2

def levelsInTrack : Nat := levelsInElement + 2

def levelsInDocument : Nat := levelsInTrack + 2

/-- The text that a value is stored as, if its effects lie inside so many values and are
    not too deep themselves. -/
def storedText (levels : Nat) (value : Json) : Except Fault String :=
  match value.storeFault? (levels + effectLevels) with
  | some fault => .error (.unwritable ("Error serializing to JSON: " ++ fault))
  | none => .ok value.write

/-- The text that a document is stored as. -/
def Document.stored (document : Document) : Except Fault String :=
  storedText levelsInDocument (document.toJson asReal)

end Montage.Timeline
