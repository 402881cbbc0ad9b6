/-
  Montage.Compile.Options

  Rendering choices that are not part of a timeline, and the frame that all parts of a
  compilation share.
-/
import Montage.Filter.Basic
import Montage.Timeline.Schedule

namespace Montage.Compile

open Montage.Number Montage.Timeline

structure Options where
  fontFile : String := "/usr/share/fonts/truetype/dejavu/DejaVuSans.ttf"
  textPosition : String := "center"
  imagePosition : String := "center"
  videoPreset : String := "veryfast"
  audioBitrate : String := "192k"
  textBoxBorder : Scalar := .int 5
  /-- The least duration of the base surface. -/
  minDuration : Binary64 := .ofDecimal false 1 (-1)

/-- What the clips of a timeline are composed on. -/
structure Frame where
  width : Int
  height : Int
  fps : Int
  background : String
  backdrop : Backdrop
  blurIntensity : Scalar
  duration : Binary64

/-- The frame of a document. -/
def Frame.of (document : Document) (options : Options) : Frame :=
  { width := document.project.canvas.width
    height := document.project.canvas.height
    fps := document.project.fps
    background := Filter.colorText document.project.backgroundColor
    backdrop := document.project.backdrop
    blurIntensity := document.project.blurIntensity
    duration := later (Timeline.duration document.tracks) options.minDuration }

end Montage.Compile
