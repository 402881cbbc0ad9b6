/-
  Montage.Web.Fetching

  The assets of a document under way in virtual time: when each is there, what it comes
  to, and the files that are written.
-/
import Montage.Web.Exchange

namespace Montage.Web

open Montage.Asset Montage.File Montage.Number Montage.Timeline

/-- An asset that is being fetched, timed from the start of the fetching. -/
structure Transfer where
  item : Wanted
  requests : List Request
  finish : Binary64
  received : Except Fault Received

/-- The transfer of one asset. -/
def transfer (table : Table) (follows : Bool) (item : Wanted) : Transfer :=
  match route item with
  | .error fault => ⟨item, [], .zero, .error fault⟩
  | .ok (.inline received) => ⟨item, [], .zero, .ok received⟩
  | .ok (.remote path) =>
    let exchange := exchange table follows item.locator
    ⟨item, exchange.requests, exchange.finish, downloadedFile item path exchange.download⟩

/-- Transfers in the order in which they end. -/
def inOrder (transfers : List Transfer) : List Transfer :=
  transfers.mergeSort fun first second => !second.finish.lt first.finish

/-- The urls that transfers which began at `start` have requested by `now`. -/
def requestedBy (start now : Binary64) (transfers : List Transfer) : List String :=
  transfers.flatMap fun transfer =>
    (transfer.requests.filter fun request => (start.add request.time).le now).map Request.url

/-- Fetches everything, one end after the other, until no asset is running; gives the
    time of the last end as well. -/
def gather (directory : Path) :
    List Transfer → Gathering → Binary64 → StateM Tree (Gathering × Binary64)
  | [], gathering, time => return (gathering, time)
  | transfer :: rest, gathering, time => do
    if !gathering.isRunning then return (gathering, time)
    let result ← (deliver directory transfer.received).run
    gather directory rest (gathering.finish transfer.item.mediaId result) transfer.finish

/-- What fetching a document's assets into a directory comes to. -/
structure Materialized where
  outcome : Except Fault Locators
  requested : List String

/-- Fetches the assets of a document. -/
def materialize (table : Table) (follows : Bool) (directory : Path) (document : Document) :
    StateM Tree Materialized := do
  let items := wanted document
  if items.isEmpty then return ⟨.ok [], []⟩
  match ← (Call.makeDirectories directory).run with
  | .error fault => return ⟨.error fault, []⟩
  | .ok () =>
    let transfers := items.map (transfer table follows)
    let (gathering, time) ← gather directory (inOrder transfers) (.start items) .zero
    return ⟨gathering.outcome?.getD (.ok []), requestedBy .zero time transfers⟩

end Montage.Web
