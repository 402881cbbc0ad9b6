/-
  Montage.File.Tree

  A file tree as a flat list of places with what is there, and the calls that read and
  change it.  A place is the list of names on the way from the root.  Calls follow a
  path name by name, so two dots lead to where the files say, and every name on the way
  has to be a directory.
-/
import Montage.Fault
import Montage.File.Path
import Montage.Text.Utf8

namespace Montage.File

/-- What is at a place. -/
inductive Entry where
  | directory
  | file (bytes : List UInt8)
  deriving DecidableEq, Repr

/-- The names from the root to a file or directory. -/
abbrev Place := List String

structure Tree where
  entries : List (Place × Entry) := []

namespace Tree

/-! ## Places -/

/-- What is at a place; the root is always a directory. -/
def entryAt (place : Place) (tree : Tree) : Option Entry :=
  if place = [] then some .directory else tree.entries.lookup place

def isDirectoryAt (place : Place) (tree : Tree) : Bool :=
  tree.entryAt place = some .directory

/-- The tree with something at a place, instead of what was there. -/
def put (place : Place) (entry : Entry) (tree : Tree) : Tree :=
  ⟨(place, entry) :: tree.entries.filter fun (other, _) => other ≠ place⟩

/-- The tree without a place and everything below it. -/
def removeBelow (place : Place) (tree : Tree) : Tree :=
  ⟨tree.entries.filter fun (other, _) => !place.isPrefixOf other⟩

theorem entryAt_put_self {place : Place} (h : place ≠ []) (entry : Entry) (tree : Tree) :
    (tree.put place entry).entryAt place = some entry := by
  simp [entryAt, put, h]

/-- What a filter by place leaves at a place. -/
theorem lookup_filter_fst {α : Type} (keep : Place → Bool) (place : Place)
    (entries : List (Place × α)) :
    (entries.filter fun entry => keep entry.1).lookup place =
      if keep place then entries.lookup place else none := by
  induction entries with
  | nil => simp
  | cons entry rest ih =>
    obtain ⟨other, content⟩ := entry
    by_cases ho : place = other
    · subst ho
      cases hk : keep place <;> simp [hk, ih]
    · have hb : (place == other) = false := by simp [ho]
      cases hk : keep other <;> simp [hk, ih, List.lookup_cons, hb]

theorem entryAt_put_ne {place other : Place} (h : other ≠ place) (entry : Entry) (tree : Tree) :
    (tree.put other entry).entryAt place = tree.entryAt place := by
  have hb : (place == other) = false := by simp [Ne.symm h]
  simp only [entryAt, put, List.lookup_cons, hb]
  split
  · rfl
  · have hrest := lookup_filter_fst (fun name => name ≠ other) place tree.entries
    simpa [Ne.symm h] using hrest

theorem entryAt_removeBelow (place other : Place) (tree : Tree) :
    (tree.removeBelow place).entryAt other =
      if other = [] then some .directory
      else if place.isPrefixOf other then none else tree.entryAt other := by
  simp only [entryAt, removeBelow]
  split
  · rfl
  · rw [lookup_filter_fst (fun name => !place.isPrefixOf name) other tree.entries]
    cases place.isPrefixOf other <;> simp

/-- The places below a place, as paths relative to it. -/
def below (place : Place) (tree : Tree) : List (Place × Entry) :=
  tree.entries.filterMap fun (other, entry) =>
    if place.isPrefixOf other && other.length > place.length then
      some (other.drop place.length, entry)
    else none

/-- The names directly below a place. -/
def children (place : Place) (tree : Tree) : List String :=
  (tree.below place).filterMap fun (names, _) =>
    match names with
    | [name] => some name
    | _ => none

/-! ## Following paths -/

/-- The most bytes a name can have. -/
def nameLimit : Nat := 255

/-- The most bytes a path can have. -/
def pathLimit : Nat := 4095

def nameTooLong (name : String) : Bool :=
  nameLimit < name.utf8ByteSize

/-- The place that is reached from `here` by following names, all of which exist. -/
def follow (tree : Tree) (here : Place) : List String → Except SystemCause Place
  | [] => .ok here
  | name :: rest =>
    if !tree.isDirectoryAt here then .error .notDirectory
    else if name = ".." then follow tree here.dropLast rest
    else if nameTooLong name then .error .nameTooLong
    else
      match tree.entryAt (here ++ [name]) with
      | none => .error .notFound
      | some _ => follow tree (here ++ [name]) rest

/-- The place that a path names; all but its last name have to exist. -/
def target (tree : Tree) (names : List String) : Except SystemCause Place :=
  match names.getLast? with
  | none => .ok []
  | some name =>
    match tree.follow [] names.dropLast with
    | .error cause => .error cause
    | .ok here =>
      if !tree.isDirectoryAt here then .error .notDirectory
      else if name = ".." then .ok here.dropLast
      else if nameTooLong name then .error .nameTooLong
      else .ok (here ++ [name])

end Tree

/-! ## Calls -/

/-- A call that reads or changes a tree; changes made before a fault stay. -/
abbrev Call := ExceptT Fault (StateM Tree)

namespace Call

/-- Whether a path can be handed to the system at all. -/
def hasNull (path : Path) : Bool :=
  path.names.any fun name => name.toList.contains (Char.ofNat 0)

def nullFault : Fault := .malformed "embedded null byte"

/-- The place of a path, whose last name need not exist. -/
def locate (path : Path) : Call Place := do
  if hasNull path then throw nullFault
  if Tree.pathLimit < path.text.utf8ByteSize then throw (.system .nameTooLong path.text)
  match (← get).target path.names with
  | .ok place => return place
  | .error cause => throw (.system cause path.text)

/-- Makes one directory. -/
def makeOne (path : Path) : Call Unit := do
  let place ← locate path
  match (← get).entryAt place with
  | some _ => throw (.system .fileExists path.text)
  | none => modify (Tree.put place .directory)

/-- Whether a path leads to something; only a name that is too long is a fault. -/
def entryOf (path : Path) : Call (Option Entry) := do
  if hasNull path then return none
  let tree ← get
  match tree.target path.names with
  | .ok place => return tree.entryAt place
  | .error .nameTooLong => throw (.system .nameTooLong path.text)
  | .error _ => return none

def exists? (path : Path) : Call Bool := do
  return (← entryOf path).isSome

def isDirectory (path : Path) : Call Bool := do
  return (← entryOf path) == some .directory

/-- Accepts a fault of `makeOne` where there is a directory already. -/
def acceptDirectory (path : Path) (fault : Fault) : Call Unit := do
  if !(← isDirectory path) then throw fault

/-- Makes a directory and the ones above it that are missing; `depth` bounds how many
    there can be.  An existing directory is accepted. -/
def makeAll : Nat → Path → Call Unit
  | 0, path => makeOne path
  | depth + 1, path =>
    tryCatch (makeOne path) fun fault =>
      match fault with
      | .system .notFound _ =>
        if path.names.isEmpty then throw fault
        else do
          makeAll depth path.parent
          tryCatch (makeOne path) fun fault =>
            match fault with
            | .system .notFound _ => throw fault
            | .system _ _ => acceptDirectory path fault
            | _ => throw fault
      | .system _ _ => acceptDirectory path fault
      | _ => throw fault

/-- Makes a directory with everything above it. -/
def makeDirectories (path : Path) : Call Unit :=
  makeAll path.names.length path

/-- Writes a file, replacing one that is there. -/
def write (path : Path) (bytes : List UInt8) : Call Unit := do
  let place ← locate path
  match (← get).entryAt place with
  | some .directory => throw (.system .isDirectory path.text)
  | _ => modify (Tree.put place (.file bytes))

/-- The bytes of a file. -/
def read (path : Path) : Call (List UInt8) := do
  let place ← locate path
  match (← get).entryAt place with
  | some (.file bytes) => return bytes
  | some .directory => throw (.system .isDirectory path.text)
  | none => throw (.system .notFound path.text)

/-- Removes a directory with everything in it, if it is there. -/
def remove (path : Path) : Call Unit := do
  match ← entryOf path with
  | none => return
  | some (.file _) => throw (.system .notDirectory path.text)
  | some .directory =>
    match (← get).target path.names with
    | .ok place => modify (Tree.removeBelow place)
    | .error _ => return

/-! ## Text -/

/-- Line ends of every kind as line feeds. -/
def unifyLineEnds : List Char → List Char
  | [] => []
  | '\r' :: '\n' :: rest => '\n' :: unifyLineEnds rest
  | '\r' :: rest => '\n' :: unifyLineEnds rest
  | c :: rest => c :: unifyLineEnds rest

/-- A file as text. -/
def readText (path : Path) : Call String := do
  match Text.Utf8.decode (← read path) with
  | .ok text => return String.ofList (unifyLineEnds text.toList)
  | .error damage => throw (.undecodable damage.message)

/-- Writes a text; a file whose text cannot be encoded is left empty. -/
def writeText (path : Path) (text : String) : Call Unit := do
  match Text.utf8Refusal? text.toList with
  | none => write path (Text.Utf8.encode text)
  | some message =>
    write path []
    throw (.unencodable message)

end Call

end Montage.File
