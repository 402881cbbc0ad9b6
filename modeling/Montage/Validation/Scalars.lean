/-
  Montage.Validation.Scalars

  Reading texts, integers, doubles and flags from the values that may stand for them.
  Conversions are generous: a number may be given as a text, a flag as a word, an
  integer as a double without a fractional part.
-/
import Montage.Validation.Checked
import Montage.Validation.NumberText

namespace Montage.Validation

open Montage.Number Montage.Text

/-! ## Texts and words -/

def checkText : Json → Checked String
  | .str text => .valid text
  | value => .fail .stringType value

/-- A text that stands for something else, which may have no half of a surrogate pair. -/
def checkWhole {α : Type} (text : String) (read : String → Checked α) : Checked α :=
  if Json.isWholeText text then read text else .fail .stringUnicode (.str text)

/-- One of a list of words, each standing for a value. -/
def checkWord {α : Type} (words : List (String × α)) (value : Json) : Checked α :=
  let unexpected : Checked α := .fail (.unexpectedWord (words.map Prod.fst)) value
  match value with
  | .str text => checkWhole text fun word => ((words.lookup word).map .valid).getD unexpected
  | _ => unexpected

/-! ## Integers -/

/-- An integer given as a text. -/
def integerOfText (text : String) : Checked Int :=
  match integerText text.toList with
  | .value i => .valid i
  | .tooLong => .fail .intParsingSize (.str text)
  | .malformed => .fail .intParsing (.str text)

/-- The first magnitude that does not fit into 64 bits with a sign. -/
def wordLimit : Nat := Nat.pow 2 63

/-- An integer given as a double. -/
def integerOfReal (x : Binary64) : Checked Int :=
  let value := Json.num (.real x)
  if !x.isFinite then .fail .finiteNumber value
  else
    match x.toInt? with
    | none => .fail .intFromFloat value
    | some i => if i.natAbs < wordLimit then .valid i else .fail .intParsingSize value

def checkInteger : Json → Checked Int
  | .num (.int i) => .valid i
  | .num (.real x) => integerOfReal x
  | .bool b => .valid (if b then 1 else 0)
  | .str text => checkWhole text integerOfText
  | value => .fail .intType value

/-- An integer above zero. -/
def checkPositive (value : Json) : Checked Int :=
  (checkInteger value).andThen fun i => if 0 < i then .valid i else .fail .notPositive value

/-! ## Doubles -/

/-- A double given as a text. -/
def realOfText (text : String) : Checked Binary64 :=
  match realText? text.toList with
  | some x => .valid x
  | none => .fail .floatParsing (.str text)

/-- An integer as a double. -/
def realOfInteger (i : Int) : Checked Binary64 :=
  match Binary64.ofInt? i with
  | .ok x => .valid x
  | .error _ => .fail .floatType (.int i)

def checkReal : Json → Checked Binary64
  | .num (.int i) => realOfInteger i
  | .num (.real x) => .valid x
  | .bool b => .valid (.ofNat (if b then 1 else 0))
  | .str text => checkWhole text realOfText
  | value => .fail .floatType value

/-- A double above zero. -/
def checkPositiveReal (value : Json) : Checked Binary64 :=
  (checkReal value).andThen fun x =>
    if Binary64.lt .zero x then .valid x else .fail .notPositive value

/-- A double that is not below zero. -/
def checkNonnegativeReal (value : Json) : Checked Binary64 :=
  (checkReal value).andThen fun x =>
    if Binary64.le .zero x then .valid x else .fail .negative value

/-! ## Flags -/

def falseWords : List String := ["0", "off", "f", "false", "n", "no"]

def trueWords : List String := ["1", "on", "t", "true", "y", "yes"]

/-- A flag written as a word in any letter case. -/
def flagOfText (text : String) : Checked Bool :=
  let word := String.ofList (text.toList.map Char.toLower)
  if falseWords.contains word then .valid false
  else if trueWords.contains word then .valid true
  else .fail .boolParsing (.str text)

/-- The flag that a number stands for; `value` is how it was given. -/
def flagOfInteger (i : Int) (value : Json) : Checked Bool :=
  if i = 0 then .valid false
  else if i = 1 then .valid true
  else if -(wordLimit : Int) ≤ i ∧ i < wordLimit then .fail .boolParsing value
  else .fail .boolType value

/-- A flag given as a double, which has to be an integer. -/
def flagOfReal (x : Binary64) : Checked Bool :=
  match integerOfReal x with
  | .valid i => flagOfInteger i (.num (.real x))
  | .invalid _ => .fail .boolType (.num (.real x))

def checkFlag : Json → Checked Bool
  | .bool b => .valid b
  | .num (.int i) => flagOfInteger i (.int i)
  | .num (.real x) => flagOfReal x
  | .str text => checkWhole text flagOfText
  | value => .fail .boolType value

end Montage.Validation
