/-
  Montage.Api.Body

  Reading the body of a request for an export.
-/
import Montage.Api.ExportRequest
import Montage.Api.Response
import Montage.Json.Reader
import Montage.Json.Writer
import Montage.Text.Encoding

namespace Montage.Api

open Montage.Text Montage.Validation

/-! ## Bytes -/

/-- What a client sends along with a request. -/
inductive RequestBody where
  | json (value : Json)
  | plain (text : String)

/-- A text in bytes. -/
def encodeText (text : String) : Except Fault (List UInt8) :=
  match utf8Refusal? text.toList with
  | some reason => .error (.unencodable reason)
  | none => .ok (Utf8.encode text)

/-- The bytes of a body. -/
def RequestBody.encode : RequestBody → Except Fault (List UInt8)
  | .plain content => encodeText content
  | .json .null => .ok []
  | .json value =>
    if value.hasFiniteNumbers then encodeText value.write
    else .error (.malformed "Out of range float values are not JSON compliant")

/-! ## Values -/

/-- A problem of a value, seen from the request. -/
def inBody (problem : Problem) : RequestProblem :=
  .value (problem.under (.field "body"))

/-- The answer to a request without a body. -/
def missingBody : Response :=
  .unprocessable [inBody (.of .missing .null)]

/-- The answer to a body that cannot be read at all. -/
def unreadableBody : Response :=
  ⟨400, .detail "There was an error parsing the body"⟩

/-- A body as a JSON value. -/
def bodyValue (body : List UInt8) : Except Response Json :=
  match (Encoding.detect body).decode? body with
  | none => .error unreadableBody
  | some text =>
    match Json.read (String.ofList text) with
    | .ok value => .ok value
    | .error error =>
      match error.fault with
      | .longInteger _ => .error unreadableBody
      | .tooDeep _ => .error unreadableBody
      | _ => .error (.unprocessable [.badJson error.position])

/-- The request for an export in a body. -/
def readBody (body : List UInt8) : Except Response ExportRequest := do
  if body.isEmpty then throw missingBody
  let value ← bodyValue body
  match value with
  | .null => throw missingBody
  | _ =>
    match checkExportRequest .byFields value with
    | .valid request => return request
    | .invalid problems => throw (.unprocessable (problems.map inBody))

end Montage.Api
