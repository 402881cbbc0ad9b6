/-
  Montage.Timeline.Basic

  Timeline documents: project settings, tracks of elements, and the media that
  elements refer to.
-/
import Montage.Json.Basic

namespace Montage.Timeline

open Montage.Number

/-! ## Project -/

structure Canvas where
  width : Int
  height : Int

/-- What fills the canvas around a clip that does not cover it. -/
inductive Backdrop where
  | color
  | blur
  deriving DecidableEq, Repr

structure Project where
  id : Option String
  name : Option String
  canvas : Canvas
  fps : Int
  backgroundColor : String
  backdrop : Backdrop
  /-- The strength of the blurred backdrop. -/
  blurIntensity : Scalar

/-! ## Elements -/

/-- An effect is a bare name, or an object with parameters. -/
inductive Effect where
  | named (name : String)
  | custom (fields : List (String × Json))

/-- What media and text elements have in common: identity and place in time. -/
structure Slot where
  id : String
  name : Option String
  startTime : Binary64
  duration : Binary64
  /-- Where in the source the element starts. -/
  trimStart : Scalar

structure MediaElement extends Slot where
  mediaId : String
  muted : Bool
  volume : Binary64
  effects : List Effect
  position : Option String

structure TextElement extends Slot where
  content : String
  fontSize : Int
  color : String
  backgroundColor : String
  /-- Offset from the middle of the frame. -/
  x : Option Binary64
  y : Option Binary64
  position : Option String

inductive Element where
  | media (element : MediaElement)
  | text (element : TextElement)

def Element.slot : Element → Slot
  | .media element => element.toSlot
  | .text element => element.toSlot

/-! ## Tracks and media -/

inductive TrackKind where
  | media
  | text
  | audio
  deriving DecidableEq, Repr

structure Track where
  id : String
  name : Option String
  kind : TrackKind
  elements : List Element

inductive MediaKind where
  | video
  | image
  | audio
  deriving DecidableEq, Repr

structure MediaAsset where
  id : Option String
  name : Option String
  kind : MediaKind
  url : Option String
  width : Option Int
  height : Option Int

/-- The media of a document by id, in the order of the document. -/
abbrev MediaItems := List (String × MediaAsset)

structure Document where
  project : Project
  tracks : List Track
  mediaItems : MediaItems

end Montage.Timeline
