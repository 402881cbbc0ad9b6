/-
  Montage.Web.Reference

  Urls that are meant relative to another one.
-/
import Montage.Asset.Locator
import Montage.Web.Url

namespace Montage.Web

/-- The schemes of urls that others can be relative to. -/
def relativeSchemes : List String :=
  ["ftp", "http", "gopher", "nntp", "imap", "wais", "file", "https", "shttp", "mms", "prospero",
   "rtsp", "rtspu", "sftp", "svn", "svn+ssh", "ws", "wss"]

/-- The parts of a path between slashes that stand before a relative path: all but the
    last one. -/
def directoryParts (path : List Char) : List (List Char) :=
  let parts := path.splitOnP (· == '/')
  if parts.getLast? = some [] then parts else parts.dropLast

/-- Parts without the empty ones between the first and the last. -/
def withoutGaps : List (List Char) → List (List Char)
  | [] => []
  | first :: rest => first :: rest.dropLast.filter (· ≠ []) ++ rest.getLast?.toList

/-- Parts without dots: two dots take back the part before them, if there is one. -/
def resolveDots (parts : List (List Char)) : List (List Char) :=
  let kept := parts.foldl (fun (done : List (List Char)) part =>
    if part = ['.', '.'] then done.dropLast
    else if part = ['.'] then done
    else done ++ [part]) []
  match parts.getLast? with
  | some last => if last = ['.'] ∨ last = ['.', '.'] then kept ++ [[]] else kept
  | none => kept

/-- The path that a path means where it is found at another one. -/
def resolvePath (base path : List Char) : List Char :=
  let parts := path.splitOnP (· == '/')
  let parts :=
    if path.head? = some '/' then parts else withoutGaps (directoryParts base ++ parts)
  let resolved := List.intercalate ['/'] (resolveDots parts)
  if resolved.isEmpty then ['/'] else resolved

namespace Url

/-- A path and the parameters of its last part. -/
def splitParameters (scheme : String) (path : List Char) : List Char × List Char :=
  let plain := if Asset.parameterSchemes.contains scheme then Asset.dropParameters path else path
  (plain, path.drop (plain.length + 1))

/-- A text behind a mark, or nothing if the text is empty. -/
def marked (mark : Char) (text : List Char) : List Char :=
  if text.isEmpty then [] else mark :: text

/-- The text of the url that the parts of a reference mean where it is found at another
    url.  Empty parts leave no trace. -/
def joinedText (base : Url) (reference : Parts) : String :=
  let (basePath, baseParameters) := splitParameters base.scheme base.path.toList
  let (path, parameters) := splitParameters base.scheme reference.path
  let query := reference.query.getD []
  let (authority, path, parameters, query) :=
    if !reference.authority.isEmpty then (reference.authority, path, parameters, query)
    else
      let authority := base.authority.toList
      if path.isEmpty && parameters.isEmpty then
        (authority, basePath, baseParameters,
          if query.isEmpty then (base.query.getD "").toList else query)
      else (authority, resolvePath basePath path, parameters, query)
  let path := path ++ marked ';' parameters
  let path := if path.isEmpty || path.head? == some '/' then path else '/' :: path
  base.scheme ++ "://" ++ String.ofList (authority ++ path ++ marked '?' query ++
    marked '#' (reference.fragment.getD []))

/-- The url that a reference means where it is found at another url.  The reference is
    taken as its text says, which may begin like a scheme although the reference has
    none. -/
def join (base reference : Url) : Except Fault Url :=
  let text := reference.text
  let parts := Parts.ofText text.toList
  let scheme := String.ofList (parts.scheme.map Char.toLower)
  if text = "" then .ok base
  else if (scheme = "" ∨ scheme = base.scheme) ∧ relativeSchemes.contains base.scheme then
    Url.read (joinedText base parts)
  else Url.read text

/-- Where a location sends a request for a url. -/
def redirected (url : Url) (location : Url) : Except Fault Url := do
  let location ←
    if location.scheme ≠ "" ∧ location.host = "" then location.withHost url.host
    else pure location
  let target ← if location.isAbsolute then pure location else url.join location
  target.withFragmentOf url

end Url

end Montage.Web
