/-
  Montage.Validation.Checked

  Results of reading that collect every problem instead of stopping at the first, and
  the reading of lists, maps and the fields of an object.
-/
import Montage.Validation.Problem

namespace Montage.Validation

/-- A value, or everything that is wrong with the input it was to be read from. -/
inductive Checked (α : Type) where
  | valid (value : α)
  | invalid (problems : List Problem)

namespace Checked

variable {α β : Type}

/-- A value with a single problem at its own place. -/
def fail (cause : Cause) (value : Json) : Checked α :=
  .invalid [.of cause value]

def map (f : α → β) : Checked α → Checked β
  | .valid a => .valid (f a)
  | .invalid problems => .invalid problems

/-- Two results side by side; the problems of both are kept in order. -/
def seq : Checked (α → β) → Checked α → Checked β
  | .valid f, .valid a => .valid (f a)
  | .valid _, .invalid problems => .invalid problems
  | .invalid problems, .valid _ => .invalid problems
  | .invalid first, .invalid second => .invalid (first ++ second)

instance : Applicative Checked where
  pure := .valid
  map := map
  seq := fun f a => seq f (a ())

/-- A further test of a value that could be read. -/
def andThen (result : Checked α) (test : α → Checked β) : Checked β :=
  match result with
  | .valid a => test a
  | .invalid problems => .invalid problems

/-- A result seen from one step further out. -/
def under (step : Step) : Checked α → Checked α
  | .valid a => .valid a
  | .invalid problems => .invalid (problems.map (Problem.under step))

theorem map_eq_valid {f : α → β} {result : Checked α} {b : β} :
    result.map f = .valid b ↔ ∃ a, result = .valid a ∧ f a = b := by
  cases result <;> simp [map]

theorem seq_eq_valid {f : Checked (α → β)} {a : Checked α} {b : β} :
    seq f a = .valid b ↔ ∃ g x, f = .valid g ∧ a = .valid x ∧ g x = b := by
  cases f <;> cases a <;> simp [seq]

theorem under_eq_valid {step : Step} {result : Checked α} {a : α} :
    result.under step = .valid a ↔ result = .valid a := by
  cases result <;> simp [under]

end Checked

/-! ## Lists and maps -/

/-- The items of a list from the given position on, each at its own position. -/
def checkItems {α : Type} (read : Json → Checked α) (position : Nat) :
    List Json → Checked (List α)
  | [] => .valid []
  | item :: rest =>
    Checked.seq (((read item).under (.index position)).map List.cons)
      (checkItems read (position + 1) rest)

/-- A list of values. -/
def checkList {α : Type} (read : Json → Checked α) : Json → Checked (List α)
  | .arr items => checkItems read 0 items
  | value => .fail .listType value

/-- The values of a map, each under its own key. -/
def checkEntries {α : Type} (read : Json → Checked α) :
    List (String × Json) → Checked (List (String × α))
  | [] => .valid []
  | (key, value) :: rest =>
    Checked.seq (((read value).under (.field key)).map fun a entries => (key, a) :: entries)
      (checkEntries read rest)

/-- A map from keys to values. -/
def checkMap {α : Type} (read : Json → Checked α) : Json → Checked (List (String × α))
  | .obj fields => checkEntries read fields
  | value => .fail .dictType value

/-- A value that may be null. -/
def checkOption {α : Type} (read : Json → Checked α) : Json → Checked (Option α)
  | .null => .valid none
  | value => (read value).map some

/-! ## Fields -/

/-- The two spellings of a field: the one that documents use, and the plain one. -/
structure Key where
  wire : String
  plain : String
  deriving DecidableEq, Repr

/-- A field with a single spelling. -/
def Key.same (name : String) : Key := ⟨name, name⟩

/-- A field as it was found: the spelling in use and the value. -/
structure Found where
  name : String
  value : Json

/-- A field of an object; the documents' spelling wins. -/
def Key.find? (key : Key) (fields : List (String × Json)) : Option Found :=
  match Json.lookup key.wire fields with
  | some value => some ⟨key.wire, value⟩
  | none => (Json.lookup key.plain fields).map (Found.mk key.plain)

/-- A field that was found, read as a value. -/
def Found.check {α : Type} (read : Json → Checked α) (found : Found) : Checked α :=
  (read found.value).under (.field found.name)

/-- The problem of a field that is missing in an object, which is the value it concerns. -/
def missing {α : Type} (key : Key) (fields : List (String × Json)) : Checked α :=
  (Checked.fail .missing (.obj fields)).under (.field key.wire)

/-- A field that has to be present. -/
def required {α : Type} (key : Key) (read : Json → Checked α) (fields : List (String × Json)) :
    Checked α :=
  match key.find? fields with
  | some found => found.check read
  | none => missing key fields

/-- A field with a default. -/
def optional {α : Type} (key : Key) (default : α) (read : Json → Checked α)
    (fields : List (String × Json)) : Checked α :=
  match key.find? fields with
  | some found => found.check read
  | none => .valid default

end Montage.Validation
