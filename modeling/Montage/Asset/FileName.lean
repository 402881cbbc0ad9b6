/-
  Montage.Asset.FileName

  Names for the files that assets are fetched to: a stem made from the media id, so that
  different ids have different names, and an extension from the locator or the media
  type.
-/
import Montage.Asset.Digest
import Montage.Asset.MediaType
import Montage.Fault
import Montage.File.Path
import Montage.Text.Blank
import Montage.Text.Codec
import Montage.Text.FinalSigma
import Montage.Text.Utf8

namespace Montage.Asset

open Montage.Text

/-! ## Stems -/

/-- The characters that a stem keeps. -/
def isSafe (c : Char) : Bool :=
  (c.toNat < 128 && c.isAlphanum) || c = '_' || c = '.' || c = '-'

/-- A media id with every other character replaced. -/
def sanitize (mediaId : String) : String :=
  if mediaId.isEmpty then "asset"
  else String.ofList (mediaId.toList.map fun c => if isSafe c then c else '_')

/-- The first eight digits of the digest of a media id. -/
def fingerprint (mediaId : String) : String :=
  String.ofList ((Digest.hex (Utf8.encode mediaId)).toList.take 8)

/-- The stem of the file name of an asset.  An id without a form in bytes has none. -/
def fileStem (mediaId : String) : Except Fault String :=
  match utf8Refusal? mediaId.toList with
  | some reason => .error (.unencodable reason)
  | none => .ok (sanitize mediaId ++ "-" ++ fingerprint mediaId)

/-! ## Extensions -/

/-- The longest suffix of a locator that is taken as an extension. -/
def maxSuffix : Nat := 6

/-- The media type in front of the parameters of a content type. -/
def bareType (contentType : String) : String :=
  String.ofList (trimBy isBlank (contentType.toList.takeWhile (· != ';')))

/-- The extension for a content type, empty where none is known. -/
def typeExtension (contentType : Option String) : String :=
  match contentType with
  | none => ""
  | some text => (extensionOf? (lower (bareType text))).getD ""

/-- The extension for a path: its own suffix unless that is too long, else the one of
    the content type. -/
def guessExtension (path : String) (contentType : Option String) : String :=
  let suffix := (File.Path.ofText path).suffix
  if suffix ≠ "" ∧ suffix.length ≤ maxSuffix then lowerWords suffix else typeExtension contentType

end Montage.Asset
