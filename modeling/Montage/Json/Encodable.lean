/-
  Montage.Json.Encodable

  What keeps a value from being written as JSON text that others can read: numbers that
  are not finite, halves of surrogate pairs, and values that lie too deep inside others.
-/
import Montage.Json.Basic
import Montage.Text.Codec

namespace Montage.Json

open Montage.Number Montage.Text

/-! ## Numbers and texts -/

mutual

/-- Whether every number of a value is finite. -/
def hasFiniteNumbers : Json → Bool
  | .num (.real x) => x.isFinite
  | .arr items => itemsHaveFiniteNumbers items
  | .obj fields => fieldsHaveFiniteNumbers fields
  | _ => true

def itemsHaveFiniteNumbers : List Json → Bool
  | [] => true
  | item :: rest => hasFiniteNumbers item && itemsHaveFiniteNumbers rest

def fieldsHaveFiniteNumbers : List (String × Json) → Bool
  | [] => true
  | (_, value) :: rest => hasFiniteNumbers value && fieldsHaveFiniteNumbers rest

end

/-- Whether a text has no half of a surrogate pair. -/
def isWholeText (text : String) : Bool :=
  !text.toList.any Surrogate.isHalf

mutual

/-- Whether no text of a value has a half of a surrogate pair. -/
def hasWholeTexts : Json → Bool
  | .str text => isWholeText text
  | .arr items => itemsHaveWholeTexts items
  | .obj fields => fieldsHaveWholeTexts fields
  | _ => true

def itemsHaveWholeTexts : List Json → Bool
  | [] => true
  | item :: rest => hasWholeTexts item && itemsHaveWholeTexts rest

def fieldsHaveWholeTexts : List (String × Json) → Bool
  | [] => true
  | (key, value) :: rest => isWholeText key && hasWholeTexts value && fieldsHaveWholeTexts rest

end

/-- Whether a value can be written so that it can be sent. -/
def isEncodable (value : Json) : Bool :=
  hasFiniteNumbers value && hasWholeTexts value

/-! ## Nesting -/

def depthFault : String := "ValueError: Maximum serialization depth exceeded"

/-- What keeps a text from being written. -/
def textFault? (text : String) : Option String :=
  (utf8Refusal? text.toList).map ("UnicodeEncodeError: " ++ ·)

mutual

/-- The first thing that keeps a value from being stored, where so many values may lie
    inside each other. -/
def storeFault? (levels : Nat) : Json → Option String
  | .str text => if levels = 0 then some depthFault else textFault? text
  | .arr items => if levels = 0 then some depthFault else itemsStoreFault? (levels - 1) items
  | .obj fields => if levels = 0 then some depthFault else fieldsStoreFault? (levels - 1) fields
  | _ => if levels = 0 then some depthFault else none

def itemsStoreFault? (levels : Nat) : List Json → Option String
  | [] => none
  | item :: rest => (storeFault? levels item).or (itemsStoreFault? levels rest)

def fieldsStoreFault? (levels : Nat) : List (String × Json) → Option String
  | [] => none
  | (key, value) :: rest =>
    (textFault? key).or ((storeFault? levels value).or (fieldsStoreFault? levels rest))

end

end Montage.Json
