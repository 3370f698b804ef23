import RustdocIndex.Text.Quoted
import RustdocIndex.Text.Split

/-! What validation finds wrong with data, and the report of it. -/
namespace RustdocIndex.Schema

/-- What the data was given as: values, or JSON text. Only the words of some messages differ. -/
inductive Source
  | values
  | json
  deriving DecidableEq

inductive Step
  | field (name : Text)
  | position (i : Nat)

inductive Problem
  | missing
  | unexpected
  | notText
  | textTooShort
  | notUnicode
  /-- None of the tags of an enumeration. -/
  | notTag (tags : List String)
  /-- None of a few literal words. -/
  | notWord (words : List String)
  | notInteger
  | unreadableInteger
  | fractional
  | notFinite
  | integerTooLarge
  | negative
  | notBoolean
  | unreadableBoolean
  | notArray (source : Source)
  | tooFewElements
  | notModel (source : Source) (model : String)
  | notFields (source : Source)
  | unknownTag (field : String) (shown : String) (tags : List String)
  | noTag (field : String)
  /-- A rule of the whole value is broken. -/
  | invalid (reason : String)

def inMarks (s : String) : String := "'" ++ s ++ "'"

/-- The words with commas between them, and `or` before the last. -/
def alternatives : List String → String
  | [] => ""
  | [a] => inMarks a
  | [a, b] => inMarks a ++ " or " ++ inMarks b
  | a :: more => inMarks a ++ ", " ++ alternatives more

namespace Problem

/-- The word for the kind of a problem. -/
def kind : Problem → String
  | missing => "missing"
  | unexpected => "extra_forbidden"
  | notText => "string_type"
  | textTooShort => "string_too_short"
  | notUnicode => "string_unicode"
  | notTag _ => "enum"
  | notWord _ => "literal_error"
  | notInteger => "int_type"
  | unreadableInteger => "int_parsing"
  | fractional => "int_from_float"
  | notFinite => "finite_number"
  | integerTooLarge => "int_parsing_size"
  | negative => "greater_than_equal"
  | notBoolean => "bool_type"
  | unreadableBoolean => "bool_parsing"
  | notArray _ => "tuple_type"
  | tooFewElements => "too_short"
  | notModel .. => "model_type"
  | notFields .values => "model_attributes_type"
  | notFields .json => "dict_type"
  | unknownTag .. => "union_tag_invalid"
  | noTag _ => "union_tag_not_found"
  | invalid _ => "value_error"

def message : Problem → String
  | missing => "Field required"
  | unexpected => "Extra inputs are not permitted"
  | notText => "Input should be a valid string"
  | textTooShort => "String should have at least 1 character"
  | notUnicode => "Input should be a valid string, unable to parse raw data as a unicode string"
  | notTag words | notWord words => "Input should be " ++ alternatives words
  | notInteger => "Input should be a valid integer"
  | unreadableInteger => "Input should be a valid integer, unable to parse string as an integer"
  | fractional => "Input should be a valid integer, got a number with a fractional part"
  | notFinite => "Input should be a finite number"
  | integerTooLarge => "Unable to parse input string as an integer, exceeded maximum size"
  | negative => "Input should be greater than or equal to 0"
  | notBoolean => "Input should be a valid boolean"
  | unreadableBoolean => "Input should be a valid boolean, unable to interpret input"
  | notArray .values => "Input should be a valid tuple"
  | notArray .json => "Input should be a valid array"
  | tooFewElements => "Tuple should have at least 1 item after validation, not 0"
  | notModel .values model => "Input should be a valid dictionary or instance of " ++ model
  | notModel .json _ => "Input should be an object"
  | notFields .values => "Input should be a valid dictionary or object to extract fields from"
  | notFields .json => "Input should be an object"
  | unknownTag field shown tags =>
    "Input tag " ++ inMarks shown ++ " found using " ++ inMarks field ++
      " does not match any of the expected tags: " ++ ", ".intercalate (tags.map inMarks)
  | noTag field => "Unable to extract tag using discriminator " ++ inMarks field
  | invalid reason => "Value error, " ++ reason

end Problem

/-- A problem, and the way to it from the whole value. -/
structure Issue where
  location : List Step
  problem : Problem

/-- The issues of a value that should have been of the model `title`. -/
structure Report where
  title : String
  issues : List Issue

def Step.text : Step → String
  | .field name => name.toString?.getD name.quoted
  | .position i => toString i

namespace Report

def issueText (i : Issue) : String :=
  let line := "  " ++ i.problem.message
  if i.location.isEmpty then line else ".".intercalate (i.location.map Step.text) ++ "\n" ++ line

/-- The number of issues, then two lines for each. -/
def text (r : Report) : String :=
  let count := r.issues.length
  let noun := if count = 1 then "error" else "errors"
  "\n".intercalate (s!"{count} validation {noun} for {r.title}" :: r.issues.map issueText)

/-- The number of issues alone. -/
def summary (r : Report) : String := s!"<{r.issues.length} in {r.title}>"

end Report

end RustdocIndex.Schema
