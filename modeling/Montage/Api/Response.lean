/-
  Montage.Api.Response

  What the service answers to requests.
-/
import Montage.Api.JobReport
import Montage.Fault

namespace Montage.Api

open Montage.Jobs Montage.Validation

/-- What is wrong with a request. -/
inductive RequestProblem where
  /-- A value in the body is wrong. -/
  | value (problem : Problem)
  /-- The body is not JSON; the place is counted in characters. -/
  | badJson (position : Nat)
  /-- The id in the path is no id. -/
  | badId
  deriving DecidableEq, Repr

/-- Whether a problem can be shown in an answer. -/
def RequestProblem.isQuotable : RequestProblem → Bool
  | .value problem => problem.isQuotable
  | _ => true

inductive Content where
  | health (version : String) (active : List JobId) (limit : Int)
  | accepted
  | job (report : JobReport)
  | detail (message : String)
  | problems (problems : List RequestProblem)
  | plain (text : String)

structure Response where
  status : Nat
  content : Content

namespace Response

def notFound : Response := ⟨404, .detail "Not Found"⟩

def jobNotFound : Response := ⟨404, .detail "Export job not found"⟩

/-- A path that exists is asked in a way that it does not know. -/
def methodNotAllowed : Response := ⟨405, .detail "Method Not Allowed"⟩

/-- The same path with or without a slash at its end is meant. -/
def redirect : Response := ⟨307, .plain ""⟩

def serverError : Response := ⟨500, .plain "Internal Server Error"⟩

/-- The answer to a request with problems, if these can be shown. -/
def unprocessable (problems : List RequestProblem) : Response :=
  if problems.all RequestProblem.isQuotable then ⟨422, .problems problems⟩ else serverError

/-- The answer without its content, as a request for the head alone gets it. -/
def headOnly (response : Response) : Response :=
  { response with content := .plain "" }

/-- The answer that tells about a job, if there is a report that can be sent. -/
def ofReport (status : Nat) : Option JobReport → Response
  | some report => if report.isEncodable then ⟨status, .job report⟩ else serverError
  | none => serverError

/-- The answer to a new export. -/
def ofSubmission : Except Fault Job → Response
  | .ok job => ofReport 201 (JobReport.ofJob? job)
  | .error (.failed failure) =>
    match failure.kind with
    | .transientAsset => ⟨422, .detail failure.message⟩
    | .upload => ⟨502, .detail failure.message⟩
    | _ => serverError
  | .error _ => serverError

end Response

end Montage.Api
