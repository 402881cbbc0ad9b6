/-
  Montage.Json.Basic

  JSON values.  Objects keep the order of their fields, and numbers keep whether they
  were written as an integer or with a point or exponent.
-/
import Montage.Number.Scalar

namespace Montage

open Montage.Number

/-- A JSON value. -/
inductive Json where
  | null
  | bool (value : Bool)
  | num (value : Scalar)
  | str (value : String)
  | arr (items : List Json)
  | obj (fields : List (String × Json))

namespace Json

instance : Inhabited Json := ⟨.null⟩

/-! ## Fields of an object -/

/-- The value of a field in a list of fields. -/
def lookup (key : String) : List (String × Json) → Option Json
  | [] => none
  | (name, value) :: rest => if name = key then some value else lookup key rest

/-- A field list in which `key` has `value`: an existing field keeps its place, a new
    one goes to the end. -/
def put (key : String) (value : Json) : List (String × Json) → List (String × Json)
  | [] => [(key, value)]
  | (name, old) :: rest =>
    if name = key then (name, value) :: rest else (name, old) :: put key value rest

/-- The fields that remain of a list with repeated keys: each key at its first place
    with its last value. -/
def ofFields (fields : List (String × Json)) : List (String × Json) :=
  fields.foldl (fun done (key, value) => put key value done) []

/-- A key that is there keeps its place, and a new one comes last. -/
theorem map_fst_put (key : String) (value : Json) (fields : List (String × Json)) :
    (put key value fields).map Prod.fst =
      if key ∈ fields.map Prod.fst then fields.map Prod.fst else fields.map Prod.fst ++ [key] := by
  induction fields with
  | nil => simp [put]
  | cons field rest ih =>
    obtain ⟨name, old⟩ := field
    by_cases h : name = key
    · subst h
      simp [put]
    · have hne : key ≠ name := Ne.symm h
      simp only [put, h, if_false, List.map_cons, ih, List.mem_cons, hne, false_or]
      split <;> simp

/-- The value of a field, if this is an object that has it. -/
def get? (key : String) : Json → Option Json
  | .obj fields => lookup key fields
  | _ => none

/-! ## Kinds of values -/

/-- The name of a value's type in messages. -/
def typeName : Json → String
  | .null => "NoneType"
  | .bool _ => "bool"
  | .num (.int _) => "int"
  | .num (.real _) => "float"
  | .str _ => "str"
  | .arr _ => "list"
  | .obj _ => "dict"

/-- Whether a value counts as true. -/
def isTruthy : Json → Bool
  | .null => false
  | .bool b => b
  | .num (.int i) => i != 0
  | .num (.real x) => !x.eq .zero
  | .str text => text != ""
  | .arr items => !items.isEmpty
  | .obj fields => !fields.isEmpty

/-! ## Building -/

def int (i : Int) : Json := .num (.int i)

def nat (n : Nat) : Json := .num (.int n)

def ofOption {α : Type} (encode : α → Json) : Option α → Json
  | none => .null
  | some a => encode a

def strings (items : List String) : Json :=
  .arr (items.map .str)

end Json

end Montage
