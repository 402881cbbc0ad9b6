/-
  Montage.Compile.Compilation

  From a timeline document to the arguments of the rendering engine: the inputs, one
  filter graph, the streams to write and how to encode them.
-/
import Montage.Compile.Sound

namespace Montage.Compile

open Montage.Filter (Graph)
open Montage.Number Montage.Timeline

/-! ## Inputs -/

/-- An engine input: where it is, and how it is to be read. -/
structure Input where
  locator : String
  options : List String := []
  deriving DecidableEq, Repr

def Input.arguments (input : Input) : List String :=
  input.options ++ ["-i", input.locator]

/-- The plain surface under everything else. -/
def baseInput (frame : Frame) : Input :=
  { locator := "color=c=" ++ frame.background ++ ":s=" ++ toString frame.width ++ "x" ++
      toString frame.height ++ ":r=" ++ toString frame.fps ++ ":d=" ++
      Filter.secondsText frame.duration
    options := ["-f", "lavfi"] }

/-- The input of a source; an image is repeated for as long as it is shown. -/
def Source.input (source : Source) : Input :=
  { locator := source.locator
    options := if source.asset.kind = .image then ["-loop", "1"] else [] }

/-- Silence for players that expect sound. -/
def silenceInput (frame : Frame) : Input :=
  { locator := "anullsrc=channel_layout=stereo:sample_rate=44100"
    options := ["-f", "lavfi", "-t", Filter.secondsText frame.duration] }

/-! ## Compilation -/

/-- A compiled timeline. -/
structure Compilation where
  inputs : List Input
  graph : Graph
  video : String
  /-- The label of the sound, if the timeline has any. -/
  audio : Option String
  /-- The output options, after the streams. -/
  encoding : List String
  outcomes : List Outcome
  warnings : List String

/-- How the output is encoded. -/
def encoding (options : Options) (fps : Int) : List String :=
  ["-c:v", "libx264",
   "-preset", options.videoPreset,
   "-profile:v", "high",
   "-pix_fmt", "yuv420p",
   "-r", toString fps,
   "-c:a", "aac",
   "-b:a", options.audioBitrate,
   "-movflags", "+faststart"]

/-- The inputs of a timeline, with one for silence where there is no sound. -/
def inputs (frame : Frame) (sources : List Source) (audio : Option String) : List Input :=
  baseInput frame :: sources.map Source.input ++
    (match audio with
      | some _ => []
      | none => [silenceInput frame])

/-- Compiles a document; fails if the start of an audible clip is not a number of
    milliseconds. -/
def compile (options : Options) (document : Document) :
    Except ArithmeticError Compilation := do
  let frame := Frame.of document options
  let selection := select document
  let sheet := picture options frame selection
  let (audio, graph) ← sound selection.clips sheet.graph
  return {
    inputs := inputs frame selection.sources audio
    graph
    video := sheet.surface
    audio
    encoding := encoding options frame.fps
    outcomes := selection.outcomes
    warnings := sheet.warnings }

namespace Compilation

/-- The streams that are written to the output. -/
def streams (compilation : Compilation) : List String :=
  match compilation.audio with
  | some label =>
    ["-map", "[" ++ compilation.video ++ "]", "-map", "[" ++ label ++ "]"]
  | none =>
    ["-map", "[" ++ compilation.video ++ "]",
     "-map", soundPad (compilation.inputs.length - 1), "-shortest"]

/-- The arguments of the engine, without the output path. -/
def arguments (compilation : Compilation) : List String :=
  compilation.inputs.flatMap Input.arguments ++
    ["-filter_complex", compilation.graph.serialize] ++
    compilation.streams ++ compilation.encoding

/-- Every input as one text. -/
def inputTexts (compilation : Compilation) : List String :=
  compilation.inputs.map fun input => " ".intercalate input.arguments

/-- The ids of the elements that were left out. -/
def skipped (compilation : Compilation) : List String :=
  (compilation.outcomes.filter fun outcome => outcome.verdict ≠ .rendered).map Outcome.elementId

end Compilation

end Montage.Compile
