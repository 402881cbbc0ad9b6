/-
  Montage.Compile.Selection

  Which elements of a document are rendered, and from which engine inputs.  Elements
  are visited track by track, each track in timeline order.  Every medium in use has
  one input, numbered by first use; input 0 is the base surface.
-/
import Montage.Timeline.Schedule

namespace Montage.Compile

open Montage.Timeline

/-! ## Visits -/

/-- An element and the track it is on. -/
structure Visit where
  track : Track
  element : Element

/-- All elements of the tracks in the order in which they are visited. -/
def visits (tracks : List Track) : List Visit :=
  tracks.flatMap fun track => track.sortedElements.map (Visit.mk track)

/-! ## Outcomes -/

/-- Why an element is left out. -/
inductive SkipReason where
  | unresolvedMedia
  | missingLocator
  deriving DecidableEq, Repr

def SkipReason.word : SkipReason → String
  | .unresolvedMedia => "unresolved_media"
  | .missingLocator => "missing_locator"

/-- What becomes of an element. -/
inductive Verdict where
  | rendered
  | skipped (reason : SkipReason)
  deriving DecidableEq, Repr

structure Outcome where
  elementId : String
  trackId : String
  verdict : Verdict
  deriving DecidableEq, Repr

/-- A medium with its place. -/
structure Source where
  mediaId : String
  asset : MediaAsset
  locator : String

/-- The source of a media element, or why it has none. -/
def source? (items : MediaItems) (element : MediaElement) : Except SkipReason Source :=
  match items.find? element.mediaId with
  | none => .error .unresolvedMedia
  | some asset =>
    match asset.locator? with
    | none => .error .missingLocator
    | some locator => .ok ⟨element.mediaId, asset, locator⟩

def verdict (items : MediaItems) : Element → Verdict
  | .text _ => .rendered
  | .media element =>
    match source? items element with
    | .ok _ => .rendered
    | .error reason => .skipped reason

/-- One outcome for each visit. -/
def outcomes (items : MediaItems) (visits : List Visit) : List Outcome :=
  visits.map fun visit =>
    ⟨visit.element.slot.id, visit.track.id, verdict items visit.element⟩

/-! ## Clips and captions -/

/-- A media element that has a source, before inputs are numbered. -/
structure Take where
  element : MediaElement
  trackKind : TrackKind
  source : Source

def Visit.take? (items : MediaItems) (visit : Visit) : Option Take :=
  match visit.element with
  | .text _ => none
  | .media element =>
    match source? items element with
    | .ok source => some ⟨element, visit.track.kind, source⟩
    | .error _ => none

/-- The media elements that are rendered, in order. -/
def takes (items : MediaItems) (visits : List Visit) : List Take :=
  visits.filterMap (Visit.take? items)

def Visit.caption? (visit : Visit) : Option TextElement :=
  match visit.element with
  | .text element => some element
  | .media _ => none

/-- The text elements in order. -/
def captions (visits : List Visit) : List TextElement :=
  visits.filterMap Visit.caption?

/-! ## Sources -/

/-- Sources with every medium only at its first place. -/
def distinctSources : List Source → List Source
  | [] => []
  | source :: rest =>
    source :: (distinctSources rest).filter fun other => other.mediaId != source.mediaId

/-- A media element with the number of the engine input it is read from. -/
structure Clip where
  element : MediaElement
  trackKind : TrackKind
  asset : MediaAsset
  input : Nat

/-- The number of the input of a medium, counted from one. -/
def inputNumber (sources : List Source) (mediaId : String) : Nat :=
  (sources.map Source.mediaId).idxOf mediaId + 1

def Take.clip (sources : List Source) (take : Take) : Clip :=
  ⟨take.element, take.trackKind, take.source.asset, inputNumber sources take.source.mediaId⟩

/-- What a document contributes to the picture and the sound. -/
structure Selection where
  sources : List Source
  clips : List Clip
  captions : List TextElement
  outcomes : List Outcome

/-- The selection of a document. -/
def select (document : Document) : Selection :=
  let visits := visits document.tracks
  let takes := takes document.mediaItems visits
  let sources := distinctSources (takes.map Take.source)
  { sources
    clips := takes.map (Take.clip sources)
    captions := captions visits
    outcomes := outcomes document.mediaItems visits }

end Montage.Compile
