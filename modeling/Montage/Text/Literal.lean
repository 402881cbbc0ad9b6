/-
  Montage.Text.Literal

  Quoted literals, as diagnostics show text: single quotes, or double quotes around a
  text that has single quotes and no double ones; backslash, the quote in use and
  unprintable characters are escaped.
-/
import Montage.Text.Codec
import Montage.Text.Printable

namespace Montage.Text

/-- One character inside a literal with the given quote. -/
def literalChar (quote : Char) (c : Char) : List Char :=
  if c = quote ∨ c = '\\' then ['\\', c]
  else if c = '\n' then ['\\', 'n']
  else if c = '\r' then ['\\', 'r']
  else if c = '\t' then ['\\', 't']
  else if isPrintable c then [c]
  else codeEscape (codeOf c)

/-- The quote that a text is shown in. -/
def literalQuote (text : List Char) : Char :=
  if text.contains '\'' && !text.contains '"' then '"' else '\''

/-- A text as a quoted literal. -/
def literal (text : String) : String :=
  let quote := literalQuote text.toList
  String.ofList (quote :: text.toList.flatMap (literalChar quote) ++ [quote])

end Montage.Text
