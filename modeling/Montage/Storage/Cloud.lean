/-
  Montage.Storage.Cloud

  A bucket of a remote storage service.  The service is reached through a client
  library; this module says which calls are made for each operation.  The client and
  the bucket are opened by the first operation and kept.
-/

namespace Montage.Storage

/-- A call of the client library. -/
inductive CloudCall where
  | openClient (project : Option String)
  | openBucket (name : String)
  | downloadText (bucket key : String)
  | uploadText (bucket key text : String) (contentType : Option String)
  | uploadFile (bucket key path : String) (contentType : Option String)
  | signUrl (bucket key : String) (seconds : Int)
  | lookUp (bucket key : String)
  deriving DecidableEq, Repr

structure CloudBucket where
  name : String
  project : String
  /-- Whether client and bucket have been opened. -/
  isOpen : Bool := false

/-- What is done with a bucket. -/
inductive CloudOperation where
  | read (key : String)
  | write (key text : String) (contentType : Option String)
  | upload (path key : String) (contentType : Option String)
  | url (key : String) (seconds : Int)
  | contains (key : String)

/-- The content type of a text that is written, unless another one is given. -/
def textType : String := "application/json"

namespace CloudBucket

/-- The calls that open the bucket. -/
def opening (bucket : CloudBucket) : List CloudCall :=
  if bucket.isOpen then []
  else
    [.openClient (if bucket.project = "" then none else some bucket.project),
     .openBucket bucket.name]

/-- The call that does the work of an operation. -/
def work (bucket : CloudBucket) : CloudOperation → CloudCall
  | .read key => .downloadText bucket.name key
  | .write key text contentType =>
    .uploadText bucket.name key text contentType
  | .upload path key contentType => .uploadFile bucket.name key path contentType
  | .url key seconds => .signUrl bucket.name key seconds
  | .contains key => .lookUp bucket.name key

/-- All calls of an operation, and the bucket after it. -/
def perform (operation : CloudOperation) (bucket : CloudBucket) :
    List CloudCall × CloudBucket :=
  (bucket.opening ++ [bucket.work operation], { bucket with isOpen := true })

end CloudBucket

end Montage.Storage
