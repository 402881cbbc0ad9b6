/-
  Montage.Compile.Picture

  The picture: a base surface, on which video clips, images and captions are composed
  one after the other.  Each step reads the surface that the step before it wrote.
-/
import Montage.Compile.Effect
import Montage.Compile.Options
import Montage.Compile.Position
import Montage.Compile.Selection
import Montage.Filter.Graph

namespace Montage.Compile

open Montage.Filter (Graph Node)
open Montage.Number Montage.Timeline

/-- The graph so far, the label of the surface, and the warnings given on the way. -/
structure Sheet where
  graph : Graph
  surface : String
  warnings : List String

/-! ## Parts of filters -/

/-- A time as a filter value. -/
def seconds (time : Binary64) : Json :=
  .str (Filter.secondsText time)

/-- The gate that shows an element only while it lasts. -/
def gate (slot : Slot) : Json :=
  .str ("between(t," ++ Filter.secondsText slot.startTime ++ "," ++
    Filter.secondsText slot.endTime ++ ")")

/-- Where in the source an element starts. -/
def trimStart (slot : Slot) : Binary64 :=
  slot.trimStart.toRealOrInfinite

/-- Where in the source an element ends. -/
def trimEnd (slot : Slot) : Binary64 :=
  (trimStart slot).add slot.duration

/-- The part of the source that an element shows. -/
def trimWindow (slot : Slot) : List (String × Json) :=
  [("start", seconds (trimStart slot)), ("end", seconds (trimEnd slot))]

/-- Moves a trimmed stream to the start time of its element. -/
def shiftFilter (slot : Slot) : Filter :=
  { name := "setpts"
    args := [.str ("PTS-STARTPTS+" ++ Filter.secondsText slot.startTime ++ "/TB")] }

def keepAspect (rule : String) : List (String × Json) :=
  [("force_original_aspect_ratio", .str rule)]

/-- Scaling to the canvas. -/
def scaleFilter (frame : Frame) (rule : String) : Filter :=
  { name := "scale", args := [.int frame.width, .int frame.height], options := keepAspect rule }

/-- The picture stream of an input. -/
def picturePad (input : Nat) : String :=
  input.repr ++ ":v"

/-! ## Base surface -/

def baseLabel : String := "baseV"

/-- The chain from the base input to the base surface. -/
def baseChain (frame : Frame) : List Filter :=
  [{ name := "format", args := [.str "yuv420p"] },
   { name := "setsar", args := [.int 1] },
   { name := "scale", args := [.int frame.width, .int frame.height] },
   { name := "fps", args := [.int frame.fps] }]

def baseSheet (frame : Frame) : Sheet :=
  { graph := ({} : Graph).add ⟨[picturePad 0], baseChain frame, [baseLabel]⟩
    surface := baseLabel
    warnings := [] }

/-! ## Video clips -/

/-- A clip over a blurred copy of itself that fills the canvas; gives the label of the
    composed stream. -/
def blurredBackdrop (frame : Frame) (pad : String) (graph : Graph) : String × Graph :=
  let (backIn, graph) := graph.fresh "v"
  let (frontIn, graph) := graph.fresh "v"
  let graph := graph.add ⟨[pad], [{ name := "split", args := [.int 2] }], [backIn, frontIn]⟩
  let (back, graph) :=
    graph.addFresh [backIn]
      [scaleFilter frame "increase",
       { name := "crop", args := [.int frame.width, .int frame.height] },
       { name := "boxblur", args := [.num frame.blurIntensity] }] "v"
  let (front, graph) := graph.addFresh [frontIn] [scaleFilter frame "decrease"] "v"
  graph.addFresh [back, front]
    [{ name := "overlay", args := [.str "(W-w)/2", .str "(H-h)/2"] }] "v"

/-- Scaling into the canvas with bars of the background colour. -/
def paddedFit (frame : Frame) : List Filter :=
  [scaleFilter frame "decrease",
   { name := "pad"
     args := [.int frame.width, .int frame.height, .str "(ow-iw)/2", .str "(oh-ih)/2"]
     options := [("color", .str frame.background)] }]

/-- The stream of a clip and the first filters that fit it to the canvas. -/
def fitToCanvas (frame : Frame) (pad : String) (graph : Graph) :
    (String × List Filter) × Graph :=
  match frame.backdrop with
  | .color => ((pad, paddedFit frame), graph)
  | .blur =>
    let (fitted, graph) := blurredBackdrop frame pad graph
    ((fitted, []), graph)

/-- The chain of a video clip after it has been fitted. -/
def videoChain (frame : Frame) (element : MediaElement) : List Filter :=
  [{ name := "fps", args := [.int frame.fps] },
   { name := "format", args := [.str "yuv420p"] },
   { name := "setsar", args := [.int 1] }] ++
  effectFilters element.effects ++
  [{ name := "trim", options := trimWindow element.toSlot }, shiftFilter element.toSlot]

def videoOverlay (slot : Slot) : Filter :=
  { name := "overlay", options := [("eof_action", .str "pass"), ("enable", gate slot)] }

/-- One video clip composed on the surface. -/
def addVideo (frame : Frame) (sheet : Sheet) (clip : Clip) : Sheet :=
  let ((stream, fit), graph) := fitToCanvas frame (picturePad clip.input) sheet.graph
  let (prepared, graph) := graph.addFresh [stream] (fit ++ videoChain frame clip.element) "v"
  let (surface, graph) :=
    graph.addFresh [sheet.surface, prepared] [videoOverlay clip.element.toSlot] "v"
  { graph, surface, warnings := sheet.warnings ++ effectWarnings clip.element.effects }

/-! ## Images -/

/-- The chain of an image; it keeps the size of its asset where that is given. -/
def imageChain (frame : Frame) (clip : Clip) : List Filter :=
  [{ name := "scale"
     args := [.int (clip.asset.width.getD frame.width), .int (clip.asset.height.getD (-1))]
     options := keepAspect "decrease" },
   { name := "format", args := [.str "rgba"] }] ++
  effectFilters clip.element.effects ++
  [{ name := "trim", options := [("duration", seconds clip.element.duration)] },
   shiftFilter clip.element.toSlot]

def imagePosition (options : Options) (element : MediaElement) : Option String :=
  some (givenOr options.imagePosition element.position)

def imageOverlay (edges : String × String) (slot : Slot) : Filter :=
  { name := "overlay"
    options :=
      [("x", .str edges.1), ("y", .str edges.2), ("eof_action", .str "pass"),
       ("enable", gate slot)] }

/-- One image composed on the surface. -/
def addImage (options : Options) (frame : Frame) (sheet : Sheet) (clip : Clip) : Sheet :=
  let position := imagePosition options clip.element
  let edges := (presetOf position).edges {}
  let (scaled, graph) :=
    sheet.graph.addFresh [picturePad clip.input] (imageChain frame clip) "v"
  let (surface, graph) :=
    graph.addFresh [sheet.surface, scaled] [imageOverlay edges clip.element.toSlot] "v"
  { graph
    surface
    warnings := sheet.warnings ++ effectWarnings clip.element.effects ++
      (positionWarning? position).toList }

/-! ## Captions -/

def captionPosition (options : Options) (element : TextElement) : Option String :=
  some (givenOr options.textPosition element.position)

/-- The expressions for the place of a caption; an offset from the middle replaces the
    named place in its direction. -/
def captionEdges (options : Options) (element : TextElement) : String × String :=
  let (left, top) := (presetOf (captionPosition options element)).edges .ofText
  let offset (middle : String) (x : Binary64) : String := middle ++ Decimal.generalSigned 6 x
  ((element.x.map (offset "(W-tw)/2")).getD left, (element.y.map (offset "(H-th)/2")).getD top)

/-- The parameters of the box behind a caption. -/
def captionBox (options : Options) (element : TextElement) : List (String × Json) :=
  if element.hasBackground then
    [("box", .int 1), ("boxcolor", .str (Filter.colorText element.backgroundColor)),
     ("boxborderw", .num options.textBoxBorder)]
  else []

def captionFilter (options : Options) (element : TextElement) : Filter :=
  let (left, top) := captionEdges options element
  { name := "drawtext"
    options :=
      [("text", .str (Filter.captionText element.content)),
       ("fontfile", .str options.fontFile),
       ("fontsize", .int element.fontSize),
       ("fontcolor", .str (Filter.colorText element.color))] ++
      captionBox options element ++
      [("x", .str left), ("y", .str top), ("enable", gate element.toSlot)] }

/-- One caption drawn on the surface. -/
def addCaption (options : Options) (sheet : Sheet) (element : TextElement) : Sheet :=
  let (surface, graph) := sheet.graph.addFresh [sheet.surface] [captionFilter options element] "v"
  { graph
    surface
    warnings := sheet.warnings ++ (positionWarning? (captionPosition options element)).toList }

/-! ## The whole picture -/

/-- The clips whose asset is of one kind. -/
def clipsOfKind (kind : MediaKind) (clips : List Clip) : List Clip :=
  clips.filter fun clip => clip.asset.kind = kind

/-- The sheet with the finished picture: video clips, then images, then captions. -/
def picture (options : Options) (frame : Frame) (selection : Selection) : Sheet :=
  let sheet := (clipsOfKind .video selection.clips).foldl (addVideo frame) (baseSheet frame)
  let sheet := (clipsOfKind .image selection.clips).foldl (addImage options frame) sheet
  selection.captions.foldl (addCaption options) sheet

end Montage.Compile
