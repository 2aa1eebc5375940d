import KeyLayers.Numeral.Digits
import KeyLayers.Text.Quoted

/-!
# Issues

A value tree that does not fit is answered with everything that is wrong with it: for each issue its
place in the tree and its cause.

## Main definitions

* `Step` — one step of a path into a value tree.
* `Cause`, `Cause.code`, `Cause.message` — what is wrong, its name, and its wording.
* `Issue` — a cause and its place.
* `Refusal` — all issues of a value that should fit a titled schema.
-/

namespace KeyLayers

/-- A step of a path into a value tree. -/
inductive Step
  /-- To the value of a key, or to the member of a union with a tag. -/
  | name (key : String)
  /-- To an item of a list. -/
  | index (position : Nat)
  deriving DecidableEq, Repr

/-- What is wrong with a value. -/
inductive Cause
  /-- A required field is not there. -/
  | missing
  /-- A field is not known. -/
  | unknownField
  /-- A text is wanted. -/
  | notText
  /-- An integer is wanted. -/
  | notInteger
  /-- A number has a fraction. -/
  | fractional
  /-- A number is infinite or none at all. -/
  | notFinite
  /-- A whole number is too large for an integer. -/
  | tooLarge
  /-- A text spells no integer. -/
  | integerUnreadable
  /-- A truth value is wanted. -/
  | notBoolean
  /-- A value stands for no truth value. -/
  | booleanUnreadable
  /-- A list is wanted. -/
  | notList
  /-- A fixed sequence is wanted. -/
  | notTuple
  /-- A mapping is wanted. -/
  | notMapping
  /-- A mapping that describes a `model` is wanted. -/
  | notRecord (model : String)
  /-- A mapping with a tag is wanted. -/
  | notTagged
  /-- The field with the tag is not there. -/
  | noTag (field : String)
  /-- The tag is none of the `expected` ones. -/
  | unknownTag (field tag : String) (expected : List String)
  /-- One of the `choices` is wanted. -/
  | notChoice (choices : List String)
  /-- A single value, shown as given, is wanted. -/
  | notLiteral (expected : String)
  /-- A rule that joins several fields is broken. -/
  | ruleBroken (rule : String)
  /-- A field cannot be assigned. -/
  | frozen
  deriving DecidableEq, Repr

/-- A list of alternatives in words. -/
def alternatives : List String → String
  | [] => ""
  | [a] => a
  | [a, b] => a ++ " or " ++ b
  | a :: rest => a ++ ", " ++ alternatives rest

namespace Cause

/-- The name of a cause. -/
def code : Cause → String
  | .missing => "missing"
  | .unknownField => "extra_forbidden"
  | .notText => "string_type"
  | .notInteger => "int_type"
  | .fractional => "int_from_float"
  | .notFinite => "finite_number"
  | .tooLarge => "int_parsing_size"
  | .integerUnreadable => "int_parsing"
  | .notBoolean => "bool_type"
  | .booleanUnreadable => "bool_parsing"
  | .notList => "list_type"
  | .notTuple => "tuple_type"
  | .notMapping => "dict_type"
  | .notRecord _ => "model_type"
  | .notTagged => "model_attributes_type"
  | .noTag _ => "union_tag_not_found"
  | .unknownTag .. => "union_tag_invalid"
  | .notChoice _ => "enum"
  | .notLiteral _ => "literal_error"
  | .ruleBroken _ => "value_error"
  | .frozen => "frozen_instance"

/-- The wording of a cause. -/
def message : Cause → String
  | .missing => "Field required"
  | .unknownField => "Extra inputs are not permitted"
  | .notText => "Input should be a valid string"
  | .notInteger => "Input should be a valid integer"
  | .fractional => "Input should be a valid integer, got a number with a fractional part"
  | .notFinite => "Input should be a finite number"
  | .tooLarge => "Unable to parse input string as an integer, exceeded maximum size"
  | .integerUnreadable => "Input should be a valid integer, unable to parse string as an integer"
  | .notBoolean => "Input should be a valid boolean"
  | .booleanUnreadable => "Input should be a valid boolean, unable to interpret input"
  | .notList => "Input should be a valid list"
  | .notTuple => "Input should be a valid tuple"
  | .notMapping => "Input should be a valid dictionary"
  | .notRecord model => "Input should be a valid dictionary or instance of " ++ model
  | .notTagged => "Input should be a valid dictionary or object to extract fields from"
  | .noTag field => s!"Unable to extract tag using discriminator '{field}'"
  | .unknownTag field tag expected =>
    let tags := ", ".intercalate (expected.map fun t => s!"'{t}'")
    s!"Input tag '{tag}' found using '{field}' does not match any of the expected tags: {tags}"
  | .notChoice choices => "Input should be " ++ alternatives (choices.map fun c => s!"'{c}'")
  | .notLiteral expected => "Input should be " ++ expected
  | .ruleBroken rule => "Value error, " ++ rule
  | .frozen => "Instance is frozen"

end Cause

/-- Something wrong at a place of a value tree. -/
structure Issue where
  /-- The way from the top to the place. -/
  path : List Step
  /-- What is wrong there. -/
  cause : Cause
  deriving DecidableEq, Repr

/-- The text of a step. -/
def Step.text : Step → String
  | .name key => key
  | .index position => Numeral.natText position

/-- An issue on a line: its place and its wording. -/
def Issue.line (i : Issue) : String :=
  ".".intercalate (i.path.map Step.text) ++ ": " ++ i.cause.message

/-- The answer to a value that does not fit. -/
structure Refusal where
  /-- What the value should have been. -/
  title : String
  /-- All that is wrong with it. -/
  issues : List Issue
  deriving DecidableEq, Repr

/-- The wording of a refusal. -/
def Refusal.message (r : Refusal) : String :=
  let plural := if r.issues.length = 1 then "" else "s"
  s!"{Numeral.natText r.issues.length} validation error{plural} for {r.title}"

end KeyLayers
