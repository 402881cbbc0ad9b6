/-
  Montage.Json.Reader

  Reading JSON text.  The reader also takes `NaN`, `Infinity` and `-Infinity`, and a
  repeated key keeps its first place with its last value.  A text that is not JSON is
  refused with what was expected and where, counted in characters.
-/
import Montage.Json.Basic
import Montage.Number.Numeral
import Montage.Text.Surrogate

namespace Montage.Json

open Montage.Number Montage.Text

/-! ## What can be wrong -/

/-- What the reader missed or met. -/
inductive Fault where
  | byteOrderMark
  | value
  | propertyName
  | colon
  | comma
  | extraData
  | unterminatedString
  | controlCharacter
  | badEscape
  | badUnicodeEscape
  /-- A whole number of more than 4300 digits; its digits are counted. -/
  | longInteger (digits : Nat)
  /-- A list or an object that lies too deep inside others. -/
  | tooDeep (container : String)
  deriving DecidableEq, Repr

def Fault.message : Fault → String
  | .byteOrderMark => "Unexpected UTF-8 BOM (decode using utf-8-sig)"
  | .value => "Expecting value"
  | .propertyName => "Expecting property name enclosed in double quotes"
  | .colon => "Expecting ':' delimiter"
  | .comma => "Expecting ',' delimiter"
  | .extraData => "Extra data"
  | .unterminatedString => "Unterminated string starting at"
  | .controlCharacter => "Invalid control character at"
  | .badEscape => "Invalid \\escape"
  | .badUnicodeEscape => "Invalid \\uXXXX escape"
  | .longInteger digits =>
    "Exceeds the limit (4300 digits) for integer string conversion: value has " ++ digits.repr ++
      " digits; use sys.set_int_max_str_digits() to increase the limit"
  | .tooDeep container =>
    "maximum recursion depth exceeded while decoding a JSON " ++ container ++
      " from a unicode string"

/-- A fault and how many characters were left where it lies. -/
structure Refusal where
  fault : Fault
  left : Nat
  deriving DecidableEq, Repr

/-- A fault in front of the given rest of the text. -/
def refuse {α : Type} (fault : Fault) (rest : List Char) : Except Refusal α :=
  .error ⟨fault, rest.length⟩

/-! ## Blanks -/

def isJsonBlank (c : Char) : Bool :=
  c == ' ' || c == '\t' || c == '\n' || c == '\r'

def skipBlanks (text : List Char) : List Char :=
  text.dropWhile isJsonBlank

/-! ## Strings -/

/-- The character that a one-letter escape stands for. -/
def shortEscape? (c : Char) : Option Char :=
  if c = '"' ∨ c = '\\' ∨ c = '/' then some c
  else if c = 'b' then some '\x08'
  else if c = 'f' then some '\x0c'
  else if c = 'n' then some '\n'
  else if c = 'r' then some '\r'
  else if c = 't' then some '\t'
  else none

/-- Four hexadecimal digits as a number, and the text after them, which may not be
    empty. -/
def fourHex? : List Char → Option (Nat × List Char)
  | a :: b :: c :: d :: rest =>
    match hexValue? a, hexValue? b, hexValue? c, hexValue? d with
    | some w, some x, some y, some z =>
      if rest.isEmpty then none else some (4096 * w + 256 * x + 16 * y + z, rest)
    | _, _, _, _ => none
  | _ => none

/-- A second escape that completes a high surrogate. -/
def pairing? (high : Nat) : List Char → Option (Char × List Char)
  | '\\' :: 'u' :: rest =>
    match fourHex? rest with
    | some (low, after) =>
      if Surrogate.isHigh high && Surrogate.isLow low then some (Surrogate.pair high low, after)
      else none
    | none => none
  | _ => none

/-- What follows a backslash: the character it stands for and the text after it.
    `start` is the text from the string's opening quote, `escape` from the backslash. -/
def escape (start escape : List Char) : List Char → Except Refusal (Char × List Char)
  | [] => refuse .unterminatedString start
  | 'u' :: rest =>
    match fourHex? rest with
    | none => refuse .badUnicodeEscape ('u' :: rest)
    | some (code, after) =>
      match pairing? code after with
      | some found => .ok found
      | none => .ok (Surrogate.keep code, after)
  | c :: rest =>
    match shortEscape? c with
    | some meant => .ok (meant, rest)
    | none => refuse .badEscape escape

/-- The rest of a string after its opening quote.  `start` is the text from that
    quote; `fuel` bounds the number of characters. -/
def stringTail (start : List Char) : Nat → List Char → Except Refusal (List Char × List Char)
  | 0, text => refuse .unterminatedString text
  | fuel + 1, text =>
    match text with
    | [] => refuse .unterminatedString start
    | c :: rest =>
      if c = '"' then .ok ([], rest)
      else if c = '\\' then do
        let (meant, after) ← escape start text rest
        let (chars, left) ← stringTail start fuel after
        return (meant :: chars, left)
      else if c.toNat < 0x20 then refuse .controlCharacter text
      else do
        let (chars, left) ← stringTail start fuel rest
        return (c :: chars, left)

/-- A string whose opening quote is the first character of `start`. -/
def string (start : List Char) : Except Refusal (String × List Char) := do
  let (chars, left) ← stringTail start start.length (start.drop 1)
  return (String.ofList chars, left)

/-! ## Numbers -/

def isAsciiDigit (c : Char) : Bool := '0' ≤ c && c ≤ '9'

/-- A fraction: a point with at least one digit after it. -/
def fraction (text : List Char) : List Char × List Char :=
  match text with
  | '.' :: rest =>
    let digits := rest.takeWhile isAsciiDigit
    if digits.isEmpty then ([], text) else (digits, rest.dropWhile isAsciiDigit)
  | _ => ([], text)

/-- An exponent, if a complete one follows. -/
def powerOfTen (text : List Char) : Option Int × List Char :=
  match text with
  | c :: rest =>
    if c = 'e' ∨ c = 'E' then
      let (negative, unsigned) := Numeral.takeSign rest
      let digits := unsigned.takeWhile isAsciiDigit
      if digits.isEmpty then (none, text)
      else
        let size : Int := Numeral.ofDigits (digits.filterMap Numeral.asciiDigit?)
        (some (if negative then -size else size), unsigned.dropWhile isAsciiDigit)
    else (none, text)
  | [] => (none, text)

/-- A number, which is an integer unless it has a fraction or an exponent. -/
def number (text : List Char) : Except Refusal (Scalar × List Char) :=
  let (negative, unsigned) :=
    match text with
    | '-' :: rest => (true, rest)
    | _ => (false, text)
  let run := unsigned.takeWhile isAsciiDigit
  let whole := if run.head? = some '0' then run.take 1 else run
  if whole.isEmpty then refuse .value text
  else
    let (places, afterPlaces) := fraction (unsigned.drop whole.length)
    let (power, left) := powerOfTen afterPlaces
    let digits := Numeral.ofDigits ((whole ++ places).filterMap Numeral.asciiDigit?)
    if places.isEmpty && power.isNone then
      if Numeral.maxIntegerDigits < whole.length then refuse (.longInteger whole.length) text
      else .ok (.int (if negative then -(digits : Int) else digits), left)
    else
      .ok (.real (.ofDecimal negative digits (power.getD 0 - places.length)), left)

/-! ## Values -/

/-- A word at the head of a text, and what follows it. -/
def word? (word : List Char) (text : List Char) : Option (List Char) :=
  if text.take word.length = word then some (text.drop word.length) else none

/-- A literal word or a number. -/
def atom (text : List Char) : Except Refusal (Json × List Char) :=
  let words : List (String × Json) :=
    [("null", .null), ("true", .bool true), ("false", .bool false),
     ("NaN", .num (.real .nan)), ("Infinity", .num (.real (.infinite false))),
     ("-Infinity", .num (.real (.infinite true)))]
  match words.findSome? fun (word, value) => (word? word.toList text).map (value, ·) with
  | some found => .ok found
  | none => do
    let (value, left) ← number text
    return (.num value, left)

/-- How many lists and objects may lie inside each other. -/
def nestingLimit : Nat := 970

mutual

/-- A value that starts at the head of the text, with room for so many lists and objects
    inside each other. -/
def value (room : Nat) : Nat → List Char → Except Refusal (Json × List Char)
  | 0, text => refuse .value text
  | fuel + 1, text =>
    match text with
    | '"' :: _ => do
      let (chars, left) ← string text
      return (.str chars, left)
    | '[' :: rest =>
      if room = 0 then refuse (.tooDeep "array") text
      else
        match skipBlanks rest with
        | ']' :: left => .ok (.arr [], left)
        | inside => do
          let (items, left) ← items (room - 1) fuel inside
          return (.arr items, left)
    | '{' :: rest =>
      if room = 0 then refuse (.tooDeep "object") text
      else
        match skipBlanks rest with
        | '}' :: left => .ok (.obj [], left)
        | inside => do
          let (fields, left) ← fields (room - 1) fuel inside
          return (.obj (ofFields fields), left)
    | _ => atom text

/-- The items of a list up to its closing bracket. -/
def items (room : Nat) : Nat → List Char → Except Refusal (List Json × List Char)
  | 0, text => refuse .value text
  | fuel + 1, text => do
    let (first, after) ← value room fuel text
    match skipBlanks after with
    | ']' :: left => return ([first], left)
    | ',' :: rest =>
      let (others, left) ← items room fuel (skipBlanks rest)
      return (first :: others, left)
    | other => refuse .comma other

/-- The fields of an object up to its closing brace. -/
def fields (room : Nat) : Nat → List Char → Except Refusal (List (String × Json) × List Char)
  | 0, text => refuse .value text
  | fuel + 1, text =>
    match text with
    | '"' :: _ => do
      let (key, after) ← string text
      match skipBlanks after with
      | ':' :: rest =>
        let (first, after) ← value room fuel (skipBlanks rest)
        match skipBlanks after with
        | '}' :: left => return ([(key, first)], left)
        | ',' :: rest =>
          let (others, left) ← fields room fuel (skipBlanks rest)
          return ((key, first) :: others, left)
        | other => refuse .comma other
      | other => refuse .colon other
    | _ => refuse .propertyName text

end

/-! ## Whole texts -/

/-- What is wrong with a text, and how many characters stand before it. -/
structure SyntaxError where
  fault : Fault
  position : Nat
  deriving DecidableEq, Repr

/-- The JSON value that a whole text stands for. -/
def read (text : String) : Except SyntaxError Json :=
  let chars := text.toList
  let attempt : Except Refusal Json :=
    if chars.head? = some '\ufeff' then refuse .byteOrderMark chars
    else do
      let (found, after) ← value nestingLimit (chars.length + 1) (skipBlanks chars)
      let rest := skipBlanks after
      if rest.isEmpty then return found else refuse .extraData rest
  match attempt with
  | .ok found => .ok found
  | .error refusal => .error ⟨refusal.fault, chars.length - refusal.left⟩

/-- The fault with its line, its column and its position in the text. -/
def SyntaxError.describe (text : String) (error : SyntaxError) : String :=
  match error.fault with
  | .longInteger _ => error.fault.message
  | .tooDeep _ => error.fault.message
  | _ =>
    let before := text.toList.take error.position
    let line := before.count '\n' + 1
    let column := (before.reverse.takeWhile (· != '\n')).length + 1
    error.fault.message ++ ": line " ++ line.repr ++ " column " ++ column.repr ++
      " (char " ++ error.position.repr ++ ")"

end Montage.Json
