/-
  Montage.File.Path

  File paths as a root and the names below it.  Empty names and single dots say
  nothing and are left out; two dots stay, since what they mean depends on the files.
-/

namespace Montage.File

/-- Where a path starts. -/
inductive Root where
  | relative
  | absolute
  /-- Two leading slashes, which are kept apart from one. -/
  | network
  deriving DecidableEq, Repr

structure Path where
  root : Root
  names : List String
  deriving DecidableEq, Repr

namespace Path

/-- A text cut at every slash. -/
def cut (text : List Char) : List (List Char) :=
  text.splitOnP (· == '/')

/-- Whether a name between slashes says something. -/
def isName (name : List Char) : Bool :=
  name ≠ [] && name ≠ ['.']

/-- The root that a text starts with. -/
def rootOf : List Char → Root
  | '/' :: '/' :: '/' :: _ => .absolute
  | '/' :: '/' :: _ => .network
  | '/' :: _ => .absolute
  | _ => .relative

def ofText (text : String) : Path :=
  ⟨rootOf text.toList, ((cut text.toList).filter isName).map String.ofList⟩

def rootText : Root → String
  | .relative => ""
  | .absolute => "/"
  | .network => "//"

/-- A path as text; the empty relative path is a single dot. -/
def text (path : Path) : String :=
  if path.root = .relative ∧ path.names = [] then "."
  else rootText path.root ++ "/".intercalate path.names

/-- A path below another one; an absolute path replaces it. -/
def join (base path : Path) : Path :=
  match path.root with
  | .relative => { base with names := base.names ++ path.names }
  | _ => path

/-- A path one name below another one. -/
def child (base : Path) (name : String) : Path :=
  base.join (ofText name)

/-- The path without its last name. -/
def parent (path : Path) : Path :=
  { path with names := path.names.dropLast }

/-- The last name, empty for a root. -/
def name (path : Path) : String :=
  path.names.getLast?.getD ""

/-- The part of a name from its last dot on, unless that dot is the first or the last
    character. -/
def suffixOf (name : String) : String :=
  let after := (name.toList.reverse.takeWhile (· != '.')).reverse
  let before := name.length - after.length
  if after.length < name.length ∧ 1 < before ∧ after ≠ [] then
    "." ++ String.ofList after
  else ""

def suffix (path : Path) : String :=
  suffixOf path.name

end Path

end Montage.File
