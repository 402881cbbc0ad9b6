/-
  Montage.Storage.Local

  A bucket that is a directory of the file tree.  Keys are paths below it; every call
  but the test for existence makes the directories that a key needs.
-/
import Montage.File.Tree

namespace Montage.Storage

open Montage.File

/-- The directory that holds a bucket. -/
structure Bucket where
  base : Path

namespace Bucket

/-- The bucket with a name below a storage root. -/
def of (root : Path) (name : String) : Bucket :=
  ⟨root.child name⟩

/-- Makes the directory of a bucket. -/
def create (bucket : Bucket) : Call Unit :=
  Call.makeDirectories bucket.base

/-- The path of a key. -/
def path (bucket : Bucket) (key : String) : Path :=
  bucket.base.child key

/-- The path of a key, with the directories above it in place. -/
def prepare (bucket : Bucket) (key : String) : Call Path := do
  let path := bucket.path key
  Call.makeDirectories path.parent
  return path

def readText (bucket : Bucket) (key : String) : Call String := do
  Call.readText (← bucket.prepare key)

def writeText (bucket : Bucket) (key : String) (text : String) : Call Unit := do
  Call.writeText (← bucket.prepare key) text

/-- Copies a file into the bucket; a key that is a directory receives the file under
    its own name. -/
def upload (bucket : Bucket) (source : Path) (key : String) : Call Unit := do
  let path ← bucket.prepare key
  let isDirectory ← tryCatch (Call.isDirectory path) fun _ => return false
  let path := if isDirectory then path.child source.name else path
  if Call.hasNull path then throw Call.nullFault
  let bytes ← Call.read source
  Call.write path bytes

/-- A path without two dots: each takes back the name before it. -/
def resolveNames (names : List String) : List String :=
  names.foldl (fun done name => if name = ".." then done.dropLast else done ++ [name]) []

/-- A byte of a url: kept where it is harmless, else escaped. -/
def urlByte (byte : UInt8) : List Char :=
  let c := Char.ofNat byte.toNat
  if byte.toNat < 128 && (c.isAlphanum || "_.-~/".toList.contains c) then [c]
  else '%' :: Text.hexByte true byte

/-- The url of a file. -/
def fileUrl (path : Path) : String :=
  "file://" ++ String.ofList ((Text.Utf8.encode path.text).flatMap urlByte)

/-- The url under which a key can be downloaded; it never expires. -/
def downloadUrl (bucket : Bucket) (key : String) : Call String := do
  let path ← bucket.prepare key
  if Call.hasNull path then throw Call.nullFault
  return fileUrl { path with names := resolveNames path.names }

def contains (bucket : Bucket) (key : String) : Call Bool :=
  Call.exists? (bucket.path key)

end Bucket

end Montage.Storage
