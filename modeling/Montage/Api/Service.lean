/-
  Montage.Api.Service

  Which part of the service a request is for, and what the endpoints answer that only look
  at the worker.
-/
import Montage.Api.Response
import Montage.Web.Url
import Montage.Worker.State

namespace Montage.Api

open Montage.Text Montage.Web

/-! ## Targets -/

/-- Where the service is, for targets that do not say so themselves. -/
def server : Url := { scheme := "http", host := "worker" }

/-- The url of the request for a target. -/
def requestUrl (target : String) : Except Fault Url := do
  Url.under server (← Url.read target)

/-- The path that a url asks for, with its escapes resolved. -/
def requestPath (url : Url) : String :=
  unescapeText (if url.path = "" then "/" else url.path)

/-! ## Endpoints -/

/-- The parts of the service. -/
inductive Endpoint where
  | health
  | newJob
  | exports
  | job (id : String)
  /-- A page about the service itself. -/
  | description
  deriving DecidableEq, Repr

/-- The methods that an endpoint knows. -/
def Endpoint.methods : Endpoint → List String
  | .health => ["GET"]
  | .newJob => ["POST"]
  | .exports => ["POST"]
  | .job _ => ["GET"]
  | .description => ["GET", "HEAD"]

/-- The endpoints with a fixed path. -/
def fixedEndpoints : List (String × Endpoint) :=
  [("/openapi.json", .description), ("/docs", .description),
   ("/docs/oauth2-redirect", .description), ("/redoc", .description), ("/health", .health),
   ("/webhook/new-job", .newJob), ("/exports", .exports)]

/-- A text without a line break at its end. -/
def withoutLastBreak (text : String) : String :=
  let chars := text.toList
  if chars.getLast? = some '\n' then String.ofList chars.dropLast else text

/-- The id in the path of a job. -/
def jobId? (path : String) : Option String :=
  let root := "/exports/".toList
  let id := path.toList.drop root.length
  if root.isPrefixOf path.toList && !id.isEmpty && !id.contains '/' then some (String.ofList id)
  else none

/-- The endpoint at a path.  A line break may follow a fixed path. -/
def endpoint? (path : String) : Option Endpoint :=
  (fixedEndpoints.lookup (withoutLastBreak path)).or ((jobId? path).map .job)

/-- The path with a slash at its end, or without it. -/
def toggleSlash (path : String) : String :=
  let chars := path.toList
  if chars.getLast? = some '/' then String.ofList (chars.reverse.dropWhile (· == '/')).reverse
  else path ++ "/"

/-- The endpoint of a request, or the answer to a request that has none. -/
def route (method path : String) : Except Response Endpoint :=
  match endpoint? path with
  | some endpoint =>
    if endpoint.methods.contains method then .ok endpoint else .error .methodNotAllowed
  | none =>
    if path ≠ "/" ∧ (endpoint? (toggleSlash path)).isSome then .error .redirect
    else .error .notFound

/-! ## Answers -/

open Montage.Jobs Montage.Worker

/-- The answer to a question for a job, with the id as it stands in the path. -/
def lookUp (id : String) (reply : Reply) (store : Store) : Response :=
  match idText? id with
  | none => .unprocessable [.badId]
  | some text =>
    match reply with
    | .genuine =>
      match store.jobs.find? fun job => job.id.text = text with
      | some job => .ofReport 200 (JobReport.ofJob? job)
      | none => .jobNotFound
    | .instead .null => .jobNotFound
    | .instead value => .ofReport 200 (JobReport.ofJson? value)
    | .raises _ _ => .serverError

/-- The answer to a question for the worker's health. -/
def health (version : String) (config : Config) (state : Worker.State) : Response :=
  ⟨200, .health version state.activeJobs config.limit⟩

end Montage.Api
