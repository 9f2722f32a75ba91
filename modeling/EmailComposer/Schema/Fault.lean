import EmailComposer.Json.Value

namespace EmailComposer.Schema

/-!
# Faults

Reading a value against a schema collects every fault it finds. A fault says what is
wrong, where, and with which value.
-/

open EmailComposer.Text
open EmailComposer.Json

/-- One step into a value: a member or an element. -/
inductive Step where
  | member (key : Text)
  | element (index : Nat)
  deriving Repr, DecidableEq

/-- What is wrong with a value. -/
inductive Cause where
  | missing
  | noText
  | noInteger
  | malformedInteger
  | hugeInteger
  | fractionalInteger
  | infiniteInteger
  | noNumber
  | malformedNumber
  | noBoolean
  | malformedBoolean
  | noChoice (options : List Text)
  | noList
  | noMapping
  | noRecord (model : Text)
  | noTaggedRecord
  | tagMissing (discriminator : Text)
  | tagUnknown (discriminator tag : Text) (expected : List Text)
  deriving Repr, DecidableEq

/-- The options of a choice in words: commas between them and an "or" before the
last one. -/
def choiceText (options : List Text) : Text :=
  match (options.map quoted).reverse with
  | [] => []
  | [only] => only
  | last :: others => joinWith ", " others.reverse ++ " or " ++ last

/-- The options of a tag in words: commas between them. -/
def tagsText (options : List Text) : Text :=
  joinWith ", " (options.map quoted)

namespace Cause

/-- The name under which a cause is reported. -/
def name : Cause → Text
  | .missing => "missing"
  | .noText => "string_type"
  | .noInteger => "int_type"
  | .malformedInteger => "int_parsing"
  | .hugeInteger => "int_parsing_size"
  | .fractionalInteger => "int_from_float"
  | .infiniteInteger => "finite_number"
  | .noNumber => "float_type"
  | .malformedNumber => "float_parsing"
  | .noBoolean => "bool_type"
  | .malformedBoolean => "bool_parsing"
  | .noChoice _ => "literal_error"
  | .noList => "list_type"
  | .noMapping => "dict_type"
  | .noRecord _ => "model_type"
  | .noTaggedRecord => "model_attributes_type"
  | .tagMissing _ => "union_tag_not_found"
  | .tagUnknown .. => "union_tag_invalid"

/-- The wording of a cause. -/
def message : Cause → Text
  | .missing => "Field required"
  | .noText => "Input should be a valid string"
  | .noInteger => "Input should be a valid integer"
  | .malformedInteger => "Input should be a valid integer, unable to parse string as an integer"
  | .hugeInteger => "Unable to parse input string as an integer, exceeded maximum size"
  | .fractionalInteger =>
      "Input should be a valid integer, got a number with a fractional part"
  | .infiniteInteger => "Input should be a finite number"
  | .noNumber => "Input should be a valid number"
  | .malformedNumber => "Input should be a valid number, unable to parse string as a number"
  | .noBoolean => "Input should be a valid boolean"
  | .malformedBoolean => "Input should be a valid boolean, unable to interpret input"
  | .noChoice options => "Input should be " ++ choiceText options
  | .noList => "Input should be a valid list"
  | .noMapping => "Input should be a valid dictionary"
  | .noRecord model => "Input should be a valid dictionary or instance of " ++ model
  | .noTaggedRecord =>
      "Input should be a valid dictionary or object to extract fields from"
  | .tagMissing discriminator =>
      "Unable to extract tag using discriminator " ++ quoted discriminator
  | .tagUnknown discriminator tag expected =>
      "Input tag '" ++ tag ++ "' found using " ++ quoted discriminator ++
        " does not match any of the expected tags: " ++ tagsText expected

/-- The particulars of a cause by name. -/
def context : Cause → Members
  | .noChoice options => [("expected", .string (choiceText options))]
  | .noRecord model => [("class_name", .string model)]
  | .tagMissing discriminator => [("discriminator", .string (quoted discriminator))]
  | .tagUnknown discriminator tag expected =>
      [("discriminator", .string (quoted discriminator)), ("tag", .string tag),
        ("expected_tags", .string (tagsText expected))]
  | _ => []

end Cause

/-- What is wrong with a value, the way to it from the value that was read, and the
value itself. -/
structure Fault where
  path : List Step
  cause : Cause
  input : Value
  deriving Repr

namespace Fault

/-- A fault of a part as a fault of the whole. -/
def under (step : Step) (fault : Fault) : Fault :=
  { fault with path := step :: fault.path }

/-- A step as a value. -/
def stepValue : Step → Value
  | .member key => .string key
  | .element index => .integer index

/-- A fault as it is reported. -/
def report (fault : Fault) : Value :=
  let particulars : Members :=
    match fault.cause.context with
    | [] => []
    | context => [("ctx", .object context)]
  let members : Members :=
    [("type", .string fault.cause.name), ("loc", .array (fault.path.map stepValue)),
      ("msg", .string fault.cause.message), ("input", fault.input)]
  .object (members ++ particulars)

end Fault

/-- A value that was read, or the faults that were found instead, in order. -/
inductive Checked (Model : Type) where
  | valid (value : Model)
  | invalid (faults : List Fault)
  deriving Repr

namespace Checked

/-- Applies a read function to a read value; the faults of both are kept. -/
def apply (function : Checked (First → Second)) (argument : Checked First) :
    Checked Second :=
  match function, argument with
  | .valid function, .valid value => .valid (function value)
  | .valid _, .invalid faults => .invalid faults
  | .invalid faults, .valid _ => .invalid faults
  | .invalid faults, .invalid others => .invalid (faults ++ others)

instance : Applicative Checked where
  pure := .valid
  seq function argument := apply function (argument ())

/-- The faults of a part as faults of the whole. -/
def under (step : Step) : Checked Model → Checked Model
  | .valid value => .valid value
  | .invalid faults => .invalid (faults.map (Fault.under step))

/-- A single fault of the value itself. -/
def fault (cause : Cause) (input : Value) : Checked Model :=
  .invalid [⟨[], cause, input⟩]

/-- The faults, if reading failed. -/
def faults : Checked Model → List Fault
  | .valid _ => []
  | .invalid faults => faults

@[simp] theorem pure_seq_valid (function : First → Second) (value : First) :
    (Checked.valid function <*> Checked.valid value : Checked Second) =
      .valid (function value) := rfl

@[simp] theorem map_valid (function : First → Second) (value : First) :
    (function <$> Checked.valid value : Checked Second) = .valid (function value) := rfl

@[simp] theorem under_valid (step : Step) (value : Model) :
    (Checked.valid value).under step = .valid value := rfl

end Checked

end EmailComposer.Schema
