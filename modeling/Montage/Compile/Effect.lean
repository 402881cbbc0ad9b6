/-
  Montage.Compile.Effect

  From the effects of an element to filters.  Unknown effects are dropped; an effect
  that lacks a required parameter is dropped with a warning.
-/
import Montage.Filter.Basic
import Montage.Timeline.Basic

namespace Montage.Compile

open Montage.Timeline

/-- A parameter, or the value it has when it is absent. -/
def parameterOr (key : String) (default : Int) (fields : List (String × Json)) : Json :=
  (Json.lookup key fields).getD (.int default)

/-- A parameter without a default; its name if it is absent. -/
def parameter (key : String) (fields : List (String × Json)) : Except String Json :=
  match Json.lookup key fields with
  | some value => .ok value
  | none => .error key

/-- The filter that a bare name stands for. -/
def namedEffect? : String → Option Filter
  | "grayscale" => some { name := "hue", options := [("s", .int 0)] }
  | "blur" => some { name := "gblur", options := [("sigma", .int 10)] }
  | "sharpen" => some { name := "unsharp" }
  | "invert" => some { name := "negate" }
  | _ => none

/-- The filter that an effect object of the given type stands for, or the name of the
    first parameter it lacks. -/
def customEffect? (type : String) (fields : List (String × Json)) :
    Except String (Option Filter) :=
  match type with
  | "brightness" =>
    .ok (some { name := "eq", options := [("brightness", parameterOr "value" 0 fields)] })
  | "contrast" =>
    .ok (some { name := "eq", options := [("contrast", parameterOr "value" 1 fields)] })
  | "saturation" =>
    .ok (some { name := "eq", options := [("saturation", parameterOr "value" 1 fields)] })
  | "crop" => do
    let width ← parameter "w" fields
    let height ← parameter "h" fields
    let corner := [parameterOr "x" 0 fields, parameterOr "y" 0 fields]
    return some { name := "crop", args := width :: height :: corner }
  | "scale" => do
    let width ← parameter "w" fields
    let height ← parameter "h" fields
    return some { name := "scale", args := [width, height], options := [("flags", .str "bicubic")] }
  | "boxblur" =>
    .ok (some
      { name := "boxblur", args := [parameterOr "luma" 5 fields, parameterOr "chroma" 5 fields] })
  | _ => .ok none

/-- What becomes of an effect: a filter, nothing, or nothing and a warning. -/
structure EffectResult where
  filter : Option Filter := none
  warning : Option String := none

def effectResult : Effect → EffectResult
  | .named name => { filter := namedEffect? name }
  | .custom fields =>
    match Json.lookup "type" fields with
    | some (.str type) =>
      match customEffect? type fields with
      | .ok filter => { filter }
      | .error key =>
        { warning := some
            ("[EFFECTS] Ignoring " ++ type ++ " effect missing " ++ Text.literal key) }
    | _ => {}

/-- The filters of a list of effects, in order. -/
def effectFilters (effects : List Effect) : List Filter :=
  effects.filterMap fun effect => (effectResult effect).filter

/-- The warnings about a list of effects, in order. -/
def effectWarnings (effects : List Effect) : List String :=
  effects.filterMap fun effect => (effectResult effect).warning

end Montage.Compile
