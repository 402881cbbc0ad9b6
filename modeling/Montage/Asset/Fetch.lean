/-
  Montage.Asset.Fetch

  Fetching the media that a document uses into one directory.  All assets are fetched
  side by side; the first failure calls off the rest.
-/
import Montage.Asset.DataUri
import Montage.Asset.FileName
import Montage.Asset.Locator
import Montage.File.Tree
import Montage.Timeline.Schedule

namespace Montage.Asset

open Montage.File Montage.Timeline

/-! ## What is fetched -/

/-- A medium that has to be fetched. -/
structure Wanted where
  mediaId : String
  locator : String
  deriving DecidableEq, Repr

/-- The media that a document uses and that have a locator, in order of first use. -/
def wanted (document : Document) : List Wanted :=
  document.referencedMediaIds.filterMap fun mediaId =>
    ((document.mediaItems.find? mediaId).bind MediaAsset.locator?).map (Wanted.mk mediaId)

/-! ## One asset -/

/-- A file to be written: its name in the directory, and what is in it. -/
structure Received where
  name : String
  bytes : List UInt8
  deriving DecidableEq, Repr

/-- How an asset is come by. -/
inductive Route where
  /-- The payload is in the locator. -/
  | inline (received : Received)
  /-- The payload has to be downloaded. -/
  | remote (path : String)
  deriving DecidableEq, Repr

def assetFailure (kind : FailureKind) (message mediaId : String) : Fault :=
  .failed (.ofMedia kind (some message) (some mediaId))

/-- The file of a data URI. -/
def inlineFile (item : Wanted) : Except Fault Received :=
  match decodeDataUri item.locator with
  | .ok uri => do
    let stem ← fileStem item.mediaId
    return ⟨stem ++ guessExtension "" (some uri.mediaType), uri.payload⟩
  | .error fault =>
    .error (assetFailure .asset ("Malformed data URI: " ++ fault.message) item.mediaId)

/-- Decides by the scheme of the locator. -/
def route (item : Wanted) : Except Fault Route := do
  let locator ← readLocator item.locator
  match locator.scheme with
  | "blob" =>
    .error (assetFailure .transientAsset "Asset still references an in-browser blob: URL"
      item.mediaId)
  | "data" => return .inline (← inlineFile item)
  | "http" => return .remote locator.path
  | "https" => return .remote locator.path
  | scheme =>
    .error (assetFailure .asset ("Unsupported asset locator scheme '" ++ scheme ++ "'")
      item.mediaId)

/-- What a download comes to. -/
inductive Download where
  | response (status : Int) (contentType : Option String) (body : List UInt8)
  /-- The exchange with the server broke off. -/
  | broken (message : String)
  /-- The url cannot be requested at all. -/
  | refused (fault : Fault)
  deriving DecidableEq, Repr

/-- The file of a download. -/
def downloadedFile (item : Wanted) (path : String) : Download → Except Fault Received
  | .response status contentType body =>
    if status = 200 then do
      let stem ← fileStem item.mediaId
      return ⟨stem ++ guessExtension path (contentType.filter (· ≠ "")), body⟩
    else
      .error (assetFailure .asset ("Download returned HTTP " ++ toString status) item.mediaId)
  | .broken message => .error (assetFailure .asset ("Download failed: " ++ message) item.mediaId)
  | .refused fault => .error fault

/-- Writes a file that was received into a directory; gives its path. -/
def deliver (directory : Path) (received : Except Fault Received) : Call String := do
  let file ← received
  let path := directory.child file.name
  Call.write path file.bytes
  return path.text

/-! ## All assets -/

/-- Where the fetching of one asset stands. -/
inductive TaskState where
  | running
  | finished (place : String)
  | failed (fault : Fault)
  | cancelled
  deriving DecidableEq, Repr

/-- The assets that are being fetched, by media id. -/
structure Gathering where
  tasks : List (String × TaskState)
  deriving DecidableEq, Repr

namespace Gathering

def start (items : List Wanted) : Gathering :=
  ⟨items.map fun item => (item.mediaId, .running)⟩

/-- Calls off what is still running. -/
def cancel (gathering : Gathering) : Gathering :=
  ⟨gathering.tasks.map fun (mediaId, state) =>
    (mediaId, if state = .running then .cancelled else state)⟩

/-- The state of one asset, if it is still running, becomes another one. -/
def settle (mediaId : String) (next : TaskState) (gathering : Gathering) : Gathering :=
  ⟨gathering.tasks.map fun (other, state) =>
    (other, if other = mediaId ∧ state = .running then next else state)⟩

/-- The end of one asset; a failure calls off the rest. -/
def finish (mediaId : String) (result : Except Fault String) (gathering : Gathering) :
    Gathering :=
  match result with
  | .ok place => gathering.settle mediaId (.finished place)
  | .error fault => (gathering.settle mediaId (.failed fault)).cancel

/-- The first failure among the assets. -/
def failure? (gathering : Gathering) : Option Fault :=
  gathering.tasks.findSome? fun (_, state) =>
    match state with
    | .failed fault => some fault
    | _ => none

def isRunning (gathering : Gathering) : Bool :=
  gathering.tasks.any fun (_, state) => state = .running

/-- Whether an asset is still being fetched. -/
def awaits (mediaId : String) (gathering : Gathering) : Bool :=
  gathering.tasks.contains (mediaId, .running)

/-- The places of the assets that were fetched. -/
def places (gathering : Gathering) : Locators :=
  gathering.tasks.filterMap fun (mediaId, state) =>
    match state with
    | .finished place => some (mediaId, place)
    | _ => none

/-- The outcome, once no asset is running any more. -/
def outcome? (gathering : Gathering) : Option (Except Fault Locators) :=
  if gathering.isRunning then none
  else
    match gathering.failure? with
    | some fault => some (.error fault)
    | none => some (.ok gathering.places)

/-! ## The assets stay the same -/

theorem map_fst_settle (mediaId : String) (next : TaskState) (gathering : Gathering) :
    (gathering.settle mediaId next).tasks.map Prod.fst = gathering.tasks.map Prod.fst := by
  simp [settle, Function.comp_def]

theorem map_fst_cancel (gathering : Gathering) :
    gathering.cancel.tasks.map Prod.fst = gathering.tasks.map Prod.fst := by
  simp [cancel, Function.comp_def]

theorem map_fst_finish (mediaId : String) (result : Except Fault String) (gathering : Gathering) :
    (gathering.finish mediaId result).tasks.map Prod.fst = gathering.tasks.map Prod.fst := by
  cases result <;> simp [finish, map_fst_settle, map_fst_cancel]

theorem isRunning_cancel (gathering : Gathering) : gathering.cancel.isRunning = false := by
  simp only [isRunning, cancel, List.any_map, List.any_eq_false]
  intro task _
  simp only [Function.comp]
  split <;> simp_all

end Gathering

end Montage.Asset
