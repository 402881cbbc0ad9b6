/-
  Montage.Validation.Problem

  What can be wrong with a value that is read into a typed record, and where.
-/
import Montage.Json.Encodable

namespace Montage.Validation

/-- One step of the way to a value inside a document. -/
inductive Step where
  | field (name : String)
  | index (position : Nat)
  deriving DecidableEq, Repr

/-- What is wrong with a value. -/
inductive Cause where
  | missing
  | stringType
  /-- A text that stands for something else has half of a surrogate pair in it. -/
  | stringUnicode
  | intType
  | intParsing
  | intParsingSize
  | intFromFloat
  | finiteNumber
  | floatType
  | floatParsing
  | boolType
  | boolParsing
  /-- The value is not above zero. -/
  | notPositive
  /-- The value is below zero, or not a number. -/
  | negative
  /-- The value is none of the expected words. -/
  | unexpectedWord (expected : List String)
  | listType
  | dictType
  /-- The value is not an object with the fields of a model. -/
  | modelType (model : String)
  /-- The value has no fields at all. -/
  | attributesType
  /-- The field that selects among the models is missing. -/
  | tagNotFound (tag : String)
  /-- The field that selects among the models names none of them. -/
  | tagInvalid (tag : String) (found : String) (expected : List String)
  deriving DecidableEq, Repr

/-- Words in quotes with commas and a final "or" between them. -/
def alternatives : List String → String
  | [] => ""
  | [only] => "'" ++ only ++ "'"
  | [first, last] => "'" ++ first ++ "' or '" ++ last ++ "'"
  | first :: rest => "'" ++ first ++ "', " ++ alternatives rest

namespace Cause

/-- The code of a cause. -/
def code : Cause → String
  | .missing => "missing"
  | .stringType => "string_type"
  | .stringUnicode => "string_unicode"
  | .intType => "int_type"
  | .intParsing => "int_parsing"
  | .intParsingSize => "int_parsing_size"
  | .intFromFloat => "int_from_float"
  | .finiteNumber => "finite_number"
  | .floatType => "float_type"
  | .floatParsing => "float_parsing"
  | .boolType => "bool_type"
  | .boolParsing => "bool_parsing"
  | .notPositive => "greater_than"
  | .negative => "greater_than_equal"
  | .unexpectedWord _ => "literal_error"
  | .listType => "list_type"
  | .dictType => "dict_type"
  | .modelType _ => "model_type"
  | .attributesType => "model_attributes_type"
  | .tagNotFound _ => "union_tag_not_found"
  | .tagInvalid _ _ _ => "union_tag_invalid"

/-- The sentence that explains a cause. -/
def message : Cause → String
  | .missing => "Field required"
  | .stringType => "Input should be a valid string"
  | .stringUnicode =>
    "Input should be a valid string, unable to parse raw data as a unicode string"
  | .intType => "Input should be a valid integer"
  | .intParsing => "Input should be a valid integer, unable to parse string as an integer"
  | .intParsingSize => "Unable to parse input string as an integer, exceeded maximum size"
  | .intFromFloat => "Input should be a valid integer, got a number with a fractional part"
  | .finiteNumber => "Input should be a finite number"
  | .floatType => "Input should be a valid number"
  | .floatParsing => "Input should be a valid number, unable to parse string as a number"
  | .boolType => "Input should be a valid boolean"
  | .boolParsing => "Input should be a valid boolean, unable to interpret input"
  | .notPositive => "Input should be greater than 0"
  | .negative => "Input should be greater than or equal to 0"
  | .unexpectedWord expected => "Input should be " ++ alternatives expected
  | .listType => "Input should be a valid list"
  | .dictType => "Input should be a valid dictionary"
  | .modelType model => "Input should be a valid dictionary or instance of " ++ model
  | .attributesType =>
    "Input should be a valid dictionary or object to extract fields from"
  | .tagNotFound tag => "Unable to extract tag using discriminator '" ++ tag ++ "'"
  | .tagInvalid tag found expected =>
    "Input tag '" ++ found ++ "' found using '" ++ tag ++
      "' does not match any of the expected tags: " ++
      ", ".intercalate (expected.map fun word => "'" ++ word ++ "'")

end Cause

/-- A cause and the way to the value it concerns. -/
structure Problem where
  cause : Cause
  path : List Step
  /-- Whether the value can be shown in an answer. -/
  isQuotable : Bool
  deriving DecidableEq, Repr

/-- A problem with a value, seen from the value. -/
def Problem.of (cause : Cause) (value : Json) : Problem :=
  ⟨cause, [], value.isEncodable⟩

/-- A problem of a value seen from one step further out. -/
def Problem.under (step : Step) (problem : Problem) : Problem :=
  { problem with path := step :: problem.path }

/-- The headline over a list of problems with a value that was read as `model`. -/
def headline (model : String) (problems : List Problem) : String :=
  let plural := if problems.length = 1 then "" else "s"
  problems.length.repr ++ " validation error" ++ plural ++ " for " ++ model

end Montage.Validation
