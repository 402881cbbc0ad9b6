/-
  Montage.Worker.World

  What workers and submissions share: the table of jobs and the files.  Calls to the
  outside are answered by replies, which say whether the call does what it is there
  for, gives something else, or fails, possibly after it has had its effect.
-/
import Montage.Config.Settings
import Montage.Jobs.Store
import Montage.Storage.Local

namespace Montage.Worker

open Montage.File Montage.Jobs Montage.Number Montage.Storage

/-- How a worker is set up. -/
structure Config where
  /-- The most jobs that run at once. -/
  limit : Int
  pollInterval : Binary64
  scratchRoot : Path
  /-- The rendering engine. -/
  program : String
  timeout : Binary64
  options : Compile.Options
  input : Bucket
  output : Bucket

/-- The set-up that settings ask for, with buckets in local storage. -/
def Config.of (settings : Config.Settings) : Config :=
  let root := Path.ofText settings.localStoragePath
  { limit := settings.maxConcurrentJobs
    pollInterval := settings.pollIntervalSeconds
    scratchRoot := .ofText settings.scratchDir
    program := settings.ffmpegPath
    timeout := settings.renderTimeoutSeconds
    options := settings.compileOptions
    input := .of root settings.inputBucketName
    output := .of root settings.outputBucketName }

structure World where
  store : Store := {}
  files : Tree := {}

/-- What an outside call comes to. -/
inductive Reply where
  /-- The call does its work. -/
  | genuine
  /-- The call does nothing and gives this value. -/
  | instead (value : Json)
  /-- The call fails; `committed` says whether it has had its effect before. -/
  | raises (fault : Fault) (committed : Bool)

/-- The fault of asking a value that is no job for a field of one. -/
def noFieldFault (field : String) (value : Json) : Fault :=
  .missingField ("'" ++ value.typeName ++ "' object has no attribute '" ++ field ++ "'")

namespace World

/-- Carries out a call on the files. -/
def onFiles {α : Type} (call : Call α) (world : World) : Except Fault α × World :=
  let (result, files) := call.run.run world.files
  (result, { world with files })

/-- Changes the table; a change that is refused leaves it as it is. -/
def change (change : Store → Except Fault Store) (world : World) : Option Fault × World :=
  match change world.store with
  | .ok store => (none, { world with store })
  | .error fault => (some fault, world)

/-- A change of the table that a reply lets through, and the fault it raises. -/
def write (change : Store → Except Fault Store) (reply : Reply) (world : World) :
    Option Fault × World :=
  match reply with
  | .genuine => world.change change
  | .instead _ => (none, world)
  | .raises fault committed => (some fault, if committed then (world.change change).2 else world)

end World

end Montage.Worker
