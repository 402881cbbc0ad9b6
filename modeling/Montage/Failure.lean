/-
  Montage.Failure

  The ways in which an export job fails, as its owner sees them: a code that programs
  can read and a message.
-/

namespace Montage

/-- The stage at which an export job fails. -/
inductive FailureKind where
  | internal
  | inputFetch
  | timelineParse
  | asset
  | transientAsset
  | engine
  | timeout
  | upload
  deriving DecidableEq, Repr

namespace FailureKind

def code : FailureKind → String
  | .internal => "INTERNAL_ERROR"
  | .inputFetch => "INPUT_FETCH_FAILED"
  | .timelineParse => "INVALID_TIMELINE"
  | .asset => "ASSET_FETCH_FAILED"
  | .transientAsset => "TRANSIENT_ASSET_REFERENCE"
  | .engine => "ENGINE_FAILED"
  | .timeout => "RENDER_TIMEOUT"
  | .upload => "UPLOAD_FAILED"

/-- What is said about a failure that has no message of its own. -/
def defaultMessage : FailureKind → String
  | .internal => "An unexpected error occurred"
  | .inputFetch => "Failed to fetch timeline document"
  | .timelineParse => "Timeline document is invalid"
  | .asset => "Failed to materialize media asset"
  | .transientAsset => "Asset locator is a transient in-browser reference"
  | .engine => "FFmpeg execution failed"
  | .timeout => "Render exceeded the configured deadline"
  | .upload => "Failed to upload rendered video"

end FailureKind

/-- A failure of an export job. -/
structure Failure where
  kind : FailureKind
  code : String
  message : String
  /-- The medium that an asset failure is about. -/
  mediaId : Option String := none
  /-- The exit code that an engine failure is about. -/
  exitCode : Option Int := none
  deriving DecidableEq, Repr

namespace Failure

/-- A text that is given and not empty. -/
def given (text : Option String) : Option String :=
  text.filter (· ≠ "")

/-- A failure with the given message, or the default one of its kind. -/
def of (kind : FailureKind) (message : Option String) : Failure :=
  { kind, code := kind.code, message := (given message).getD kind.defaultMessage }

/-- The failure with another code, if one is given. -/
def withCode (code : Option String) (failure : Failure) : Failure :=
  { failure with code := (given code).getD failure.code }

/-- A failure about a medium, which its message names. -/
def ofMedia (kind : FailureKind) (message : Option String) (mediaId : Option String) : Failure :=
  let named :=
    match given message, given mediaId with
    | some text, some id => some (text ++ " (media_id=" ++ id ++ ")")
    | _, _ => message
  { of kind named with mediaId }

/-- A failure of the engine, with the exit code if it came that far. -/
def ofEngine (kind : FailureKind) (message : Option String) (exitCode : Option Int) : Failure :=
  { of kind message with exitCode }

/-- The failure as it is stored with the job. -/
def text (failure : Failure) : String :=
  failure.code ++ ": " ++ failure.message

end Failure

end Montage
