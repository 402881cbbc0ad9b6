/-
  Montage.Fault

  Everything that can end an operation without a result.
-/
import Montage.Failure
import Montage.HostName.Fault
import Montage.Number.Scalar
import Montage.SystemCause
import Montage.Validation.Problem

namespace Montage

open Montage.Number

/-- Why an operation has no result. -/
inductive Fault where
  /-- An export job fails. -/
  | failed (failure : Failure)
  /-- A value cannot be read as a model. -/
  | invalid (model : String) (problems : List Validation.Problem)
  | arithmetic (error : ArithmeticError)
  /-- A call to the operating system fails. -/
  | system (cause : SystemCause) (path : String)
  /-- A text has the wrong form. -/
  | malformed (message : String)
  /-- Data are not valid base64. -/
  | badEncoding (message : String)
  /-- Bytes are no text. -/
  | undecodable (message : String)
  /-- A text has no form in bytes. -/
  | unencodable (message : String)
  /-- A value cannot be written as JSON. -/
  | unwritable (message : String)
  /-- A text has too many values inside each other to be read. -/
  | tooDeep (message : String)
  /-- A url cannot be requested. -/
  | badUrl (message : String)
  /-- The name of a host is none. -/
  | badHost (fault : HostName.Fault)
  /-- A service cannot be reached. -/
  | unreachable (message : String)
  /-- A value has no such field. -/
  | missingField (message : String)
  /-- A value of the wrong type is given. -/
  | wrongType (message : String)
  /-- A number is too large for what it is to be stored in. -/
  | outOfRange (message : String)
  /-- A row breaks a rule of the table: its id is taken, or a value is missing. -/
  | badRow
  /-- The receiver of progress reports gives up. -/
  | callback (message : String)
  deriving DecidableEq, Repr

/-- The message of a fault. -/
def Fault.message : Fault → String
  | .failed failure => failure.message
  | .invalid model problems => Validation.headline model problems
  | .arithmetic error => error.message
  | .system cause path => cause.message path
  | .malformed message => message
  | .badEncoding message => message
  | .undecodable message => message
  | .unencodable message => message
  | .unwritable message => message
  | .tooDeep message => message
  | .badUrl message => message
  | .badHost fault => fault.message
  | .unreachable message => message
  | .missingField message => message
  | .wrongType message => message
  | .outOfRange message => message
  | .badRow => ""
  | .callback message => message

end Montage
