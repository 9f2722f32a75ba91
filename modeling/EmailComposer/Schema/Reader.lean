import EmailComposer.Number.Reading
import EmailComposer.Schema.Fault

namespace EmailComposer.Schema

/-!
# Readers

A reader turns a JSON value into a value of a domain type or says what is wrong with
it. Scalars are read generously: numbers and truth values may be written as text.
The fields of a record are found by either spelling of their name.
-/

open EmailComposer.Text
open EmailComposer.Json

/-- A reader of values of a domain type. -/
abbrev Reader (Model : Type) := Value → Checked Model

/-- Reads text; nothing else is taken for text. -/
def text : Reader Text
  | .string value => .valid value
  | input => .fault .noText input

/-- The bound of the whole floating-point numbers that are read as integers. -/
def wholeFloatBound : Int := 0x8000000000000000

/-- Reads an integer from a floating-point number without a fraction. -/
def integerOfFloat (input : Value) (number : Binary64) : Checked Int :=
  if number.isUnbounded then
    .fault .infiniteInteger input
  else
    match number.toInt? with
    | none => .fault .fractionalInteger input
    | some value =>
        if -wholeFloatBound < value && value < wholeFloatBound then
          .valid value
        else
          .fault .hugeInteger input

/-- Reads an integer; a truth value counts as one or zero. -/
def integer : Reader Int
  | .integer value => .valid value
  | .boolean value => .valid (if value then 1 else 0)
  | .float number => integerOfFloat (.float number) number
  | .string written =>
      match Number.fieldInt written with
      | .ok value => .valid value
      | .error .malformed => .fault .malformedInteger (.string written)
      | .error .tooLong => .fault .hugeInteger (.string written)
  | input => .fault .noInteger input

/-- Reads a floating-point number. -/
def float : Reader Binary64
  | .float number => .valid number
  | .integer value =>
      match Binary64.ofInt? value with
      | some number => .valid number
      | none => .fault .noNumber (.integer value)
  | .boolean value => .valid (Binary64.ofRatio false (if value then 1 else 0) 1)
  | .string written =>
      match Number.fieldFloat? written with
      | some number => .valid number
      | none => .fault .malformedNumber (.string written)
  | input => .fault .noNumber input

/-- The words for true and for false. -/
def booleanWords : List (Text × Bool) :=
  [("0", false), ("off", false), ("f", false), ("false", false), ("n", false),
    ("no", false), ("1", true), ("on", true), ("t", true), ("true", true), ("y", true),
    ("yes", true)]

/-- Reads a truth value from a number that is one or zero. -/
def booleanOfInt (input : Value) (value : Int) : Checked Bool :=
  if value = 0 then
    .valid false
  else if value = 1 then
    .valid true
  else
    .fault .malformedBoolean input

/-- Reads a truth value. -/
def boolean : Reader Bool
  | .boolean value => .valid value
  | .string written =>
      match booleanWords.find? fun word => word.1 = written.map lowerAscii with
      | some word => .valid word.2
      | none => .fault .malformedBoolean (.string written)
  | .integer value => booleanOfInt (.integer value) value
  | .float number =>
      match integerOfFloat (.float number) number with
      | .valid value => booleanOfInt (.float number) value
      | .invalid _ => .fault .noBoolean (.float number)
  | input => .fault .noBoolean input

/-- Reads one of several values by its name. -/
def choice (options : List (Text × Model)) : Reader Model := fun input =>
  let chosen : Option Model :=
    match input with
    | .string name => (options.find? fun option => option.1 = name).map Prod.snd
    | _ => none
  match chosen with
  | some value => .valid value
  | none => .fault (.noChoice (options.map Prod.fst)) input

/-- Reads the elements of a list from a position on. -/
def elementsFrom (reader : Reader Model) : Nat → List Value → Checked (List Model)
  | _, [] => .valid []
  | index, first :: rest =>
      List.cons <$> (reader first).under (.element index) <*> elementsFrom reader (index + 1) rest

/-- Reads a list. -/
def list (reader : Reader Model) : Reader (List Model)
  | .array elements => elementsFrom reader 0 elements
  | input => .fault .noList input

/-- Reads the entries of a mapping. A fault of a key is marked as such. -/
def entries (readKey : Reader Key) (reader : Reader Model) :
    Members → Checked (List (Key × Model))
  | [] => .valid []
  | (key, value) :: rest =>
      let entry := Prod.mk <$> (readKey (.string key)).under (.member "[key]") <*> reader value
      List.cons <$> entry.under (.member key) <*> entries readKey reader rest

/-- Reads a mapping. -/
def mapping (readKey : Reader Key) (reader : Reader Model) : Reader (List (Key × Model))
  | .object members => entries readKey reader members
  | input => .fault .noMapping input

/-- Reads a value that may be nothing. -/
def optional (reader : Reader Model) : Reader (Option Model)
  | .null => .valid none
  | input => some <$> reader input

/-- A word with a capital letter. -/
def capitalized : Text → Text
  | [] => []
  | first :: rest => upperAscii first :: rest

/-- The two spellings of field names: words with underscores between them, or words
run together with capital letters. -/
inductive Spelling where
  | snake
  | camel
  deriving Repr, DecidableEq

namespace Spelling

/-- The spelling of a name that is given with underscores. -/
def apply : Spelling → Text → Text
  | .snake, name => name
  | .camel, name =>
      match fields '_' name with
      | [] => []
      | first :: rest => first ++ rest.flatMap capitalized

end Spelling

/-- The fields of a record. -/
structure Record where
  members : Members
  deriving Repr

namespace Record

/-- The key under which a field is present, and its value; the capital spelling is
looked up first. -/
def lookup? (record : Record) (name : Text) : Option (Text × Value) :=
  [Spelling.camel, .snake].findSome? fun spelling =>
    let key := spelling.apply name
    (record.members.get? key).map fun value => (key, value)

/-- Reads a field that has to be there. -/
def required (record : Record) (name : Text) (reader : Reader Model) : Checked Model :=
  match record.lookup? name with
  | some (key, value) => (reader value).under (.member key)
  | none =>
      (Checked.fault .missing (.object record.members)).under
        (.member (Spelling.camel.apply name))

/-- Reads a field that has a default value. -/
def withDefault (record : Record) (name : Text) (default : Model) (reader : Reader Model) :
    Checked Model :=
  match record.lookup? name with
  | some (key, value) => (reader value).under (.member key)
  | none => .valid default

/-- Reads a field that may be left out or be nothing. -/
def maybe (record : Record) (name : Text) (reader : Reader Model) :
    Checked (Option Model) :=
  record.withDefault name none (optional reader)

end Record

/-- Reads a record of a named model. -/
def model (name : Text) (read : Record → Checked Model) : Reader Model
  | .object members => read ⟨members⟩
  | input => .fault (.noRecord name) input

/-- Reads one of several records, told apart by the tag in a member. -/
def tagged (discriminator : Text) (models : List (Text × (Record → Checked Model))) :
    Reader Model
  | .object members =>
      match Members.get? members discriminator with
      | none => .fault (.tagMissing discriminator) (.object members)
      | some tag =>
          let chosen : Option (Text × (Record → Checked Model)) :=
            match tag with
            | .string name => models.find? fun entry => entry.1 = name
            | _ => none
          match chosen with
          | some entry => (entry.2 ⟨members⟩).under (.member entry.1)
          | none =>
              .fault (.tagUnknown discriminator tag.messageText (models.map Prod.fst))
                (.object members)
  | input => .fault .noTaggedRecord input

/-- The members of a dump: every field under one spelling of its name. -/
def dumpMembers (spelling : Spelling) (named : Members) : Value :=
  .object (named.map fun field => (spelling.apply field.1, field.2))

end EmailComposer.Schema
