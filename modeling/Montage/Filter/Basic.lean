/-
  Montage.Filter.Basic

  One filter of a filter chain, and its text.  A value that holds a character which
  would end a filter, a chain or a label is put into single quotes; a value that
  already is in quotes passes through unchanged.  Times, colours and captions stand
  inside filters as texts of their own.
-/
import Montage.Json.Display
import Montage.Number.Decimal

namespace Montage

/-- One filter with its positional values and its named values, in order. -/
structure Filter where
  name : String
  args : List Json := []
  options : List (String × Json) := []

namespace Filter

/-- The characters that separate filters, chains and labels. -/
def separators : List Char := [',', ';', '[', ']']

/-- A value in single quotes. -/
def quote (value : String) : String :=
  "'" ++ value ++ "'"

/-- Whether a text starts and ends with a single quote. -/
def isQuoted (text : List Char) : Bool :=
  text.head? == some '\'' && text.getLast? == some '\''

/-- The text of a value inside a filter. -/
def valueText (value : Json) : String :=
  let text := value.display
  if isQuoted text.toList then text
  else if text.toList.any separators.contains then quote text
  else text

/-- The parameters of a filter, each as text. -/
def parameters (filter : Filter) : List String :=
  filter.args.map valueText ++ filter.options.map fun (key, value) => key ++ "=" ++ valueText value

/-- A filter as text: its name, then its parameters after an equals sign. -/
def render (filter : Filter) : String :=
  match filter.parameters with
  | [] => filter.name
  | parameters => filter.name ++ "=" ++ ":".intercalate parameters

open Montage.Number

/-! ## Times -/

/-- A time in seconds with millisecond precision. -/
def secondsText (time : Binary64) : String :=
  Decimal.fixed 3 time

/-! ## Colours and captions -/

/-- A colour, with every number sign written as the hexadecimal prefix. -/
def colorText (color : String) : String :=
  String.ofList (color.toList.flatMap fun c => if c = '#' then ['0', 'x'] else [c])

/-- One character of a caption inside single quotes.  Backslash, colon and percent
    sign are escaped; a single quote leaves the quotes, stands escaped, and enters
    them again. -/
def captionChar (c : Char) : List Char :=
  if c = '\\' ∨ c = ':' ∨ c = '%' then ['\\', c]
  else if c = '\'' then ['\'', '\\', '\'', '\'']
  else [c]

/-- A caption as one quoted value. -/
def captionText (caption : String) : String :=
  String.ofList ('\'' :: caption.toList.flatMap captionChar ++ ['\''])

end Filter

end Montage
