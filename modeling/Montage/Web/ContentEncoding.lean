/-
  Montage.Web.ContentEncoding

  The codings that the body of an answer is packed in.  They are named in the order in
  which they were applied; names that are not known are passed over.
-/
import Montage.Compression.Container
import Montage.Text.Blank

namespace Montage.Web

open Montage.Compression Montage.Text

inductive Coding where
  | plain
  | gzip
  /-- Data with or without their wrapping. -/
  | deflate
  deriving DecidableEq, Repr

/-- The coding with a name in lower case. -/
def Coding.ofName? : String → Option Coding
  | "identity" => some .plain
  | "gzip" => some .gzip
  | "deflate" => some .deflate
  | _ => none

/-- Takes a coding off a body.  What is damaged with its wrapping may be whole without
    one. -/
def Coding.unpack (coding : Coding) (body : List UInt8) : Except Damage (List UInt8) :=
  match coding with
  | .plain => .ok body
  | .gzip => unpackGzip body
  | .deflate =>
    match unpackZlib body with
    | .ok body => .ok body
    | .error _ => unpackRaw body

/-- The codings in the value of a header. -/
def codings (header : String) : List Coding :=
  (header.toList.splitOnP (· == ',')).filterMap fun name =>
    Coding.ofName? (String.ofList ((trimBy isBlank name).map Char.toLower))

/-- Takes all codings off a body, the last one first.  An empty body has none. -/
def unpackBody (header : Option String) (body : List UInt8) : Except Damage (List UInt8) :=
  if body.isEmpty then .ok []
  else (codings (header.getD "")).reverse.foldlM (fun body coding => coding.unpack body) body

end Montage.Web
