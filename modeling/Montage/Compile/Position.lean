/-
  Montage.Compile.Position

  Named places on the frame, and the expressions for the left and top edge of an item
  that stands there.
-/
import Montage.Text.Lowercase

namespace Montage.Compile

/-- A place on the frame. -/
inductive Preset where
  | topLeft
  | topRight
  | bottomLeft
  | bottomRight
  | center
  deriving DecidableEq, Repr

/-- The expressions for the sizes of frame and item, and for the distance that an item
    keeps from the edges. -/
structure Layout where
  width : String := "W"
  height : String := "H"
  itemWidth : String := "w"
  itemHeight : String := "h"
  margin : String := "20"

/-- The layout of drawn text. -/
def Layout.ofText : Layout := { itemWidth := "tw", itemHeight := "th" }

namespace Preset

/-- The place that a name stands for, in any letter case. -/
def ofName? (name : String) : Option Preset :=
  match Text.lower name with
  | "top-left" => some .topLeft
  | "top-right" => some .topRight
  | "bottom-left" => some .bottomLeft
  | "bottom-right" => some .bottomRight
  | "center" => some .center
  | "middle" => some .center
  | _ => none

/-- The expressions for the left and the top edge. -/
def edges (layout : Layout) (preset : Preset) : String × String :=
  let right := layout.width ++ "-" ++ layout.itemWidth ++ "-" ++ layout.margin
  let bottom := layout.height ++ "-" ++ layout.itemHeight ++ "-" ++ layout.margin
  match preset with
  | .topLeft => (layout.margin, layout.margin)
  | .topRight => (right, layout.margin)
  | .bottomLeft => (layout.margin, bottom)
  | .bottomRight => (right, bottom)
  | .center =>
    ("(" ++ layout.width ++ "-" ++ layout.itemWidth ++ ")/2",
      "(" ++ layout.height ++ "-" ++ layout.itemHeight ++ ")/2")

end Preset

/-- The first text that is given and not empty, else the default. -/
def givenOr (default : String) : Option String → String
  | some text => if text = "" then default else text
  | none => default

/-- The place that a position names; the bottom right corner where it names none. -/
def presetOf (position : Option String) : Preset :=
  (Preset.ofName? (givenOr "bottom-right" position)).getD .bottomRight

/-- The warning about a position that names no place. -/
def positionWarning? (position : Option String) : Option String :=
  let name := givenOr "bottom-right" position
  match Preset.ofName? name with
  | some _ => none
  | none =>
    some ("[EFFECTS] Unknown position preset '" ++ name ++ "', using bottom-right")

end Montage.Compile
