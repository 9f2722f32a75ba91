import EmailComposer.Number.Decimal
import EmailComposer.Text.Quoted

namespace EmailComposer.Json

/-!
# JSON values

Blocks, documents and requests arrive as JSON. Integers are of any size and stay
apart from floating-point numbers; the members of an object keep their order.
-/

open EmailComposer.Text

/-- A JSON value. -/
inductive Value where
  | null
  | boolean (value : Bool)
  | integer (value : Int)
  | float (value : Binary64)
  | string (value : Text)
  | array (elements : List Value)
  | object (members : List (Text × Value))
  deriving Repr, BEq, Inhabited

/-- The members of an object in order. -/
abbrev Members := List (Text × Value)

namespace Members

/-- The value of the first member with a key. -/
def get? (members : Members) (key : Text) : Option Value :=
  (members.find? fun member => member.1 = key).map Prod.snd

/-- The members with one more value: in the place of the member with its key, or at
the end. -/
def put (members : Members) (key : Text) (value : Value) : Members :=
  match members with
  | [] => [(key, value)]
  | first :: rest =>
      if first.1 = key then
        (key, value) :: rest
      else
        first :: put rest key value

end Members

namespace Value

/-- The name of the type of a value in messages. -/
def typeName : Value → Text
  | .null => "NoneType"
  | .boolean _ => "bool"
  | .integer _ => "int"
  | .float _ => "float"
  | .string _ => "str"
  | .array _ => "list"
  | .object _ => "dict"

/-- A value counts as true unless it is nothing, false, a zero or empty. -/
def isTruthy : Value → Bool
  | .null => false
  | .boolean value => value
  | .integer value => value != 0
  | .float value =>
      match value.shape with
      | .finite _ mantissa _ => mantissa != 0
      | _ => true
  | .string value => !value.isEmpty
  | .array elements => !elements.isEmpty
  | .object members => !members.isEmpty

mutual

/-- A value inside a message, with its texts in quotes. -/
def quotedText : Value → Text
  | .null => "None"
  | .boolean true => "True"
  | .boolean false => "False"
  | .integer value => ofInt value
  | .float value => value.messageText
  | .string value => quoted value
  | .array elements => "[" ++ joinWith ", " (elementTexts elements) ++ "]"
  | .object members => "\x7b" ++ joinWith ", " (memberTexts members) ++ "\x7d"

/-- The elements of an array inside a message. -/
def elementTexts : List Value → List Text
  | [] => []
  | first :: rest => quotedText first :: elementTexts rest

/-- The members of an object inside a message. -/
def memberTexts : List (Text × Value) → List Text
  | [] => []
  | (key, value) :: rest => (quoted key ++ ": " ++ quotedText value) :: memberTexts rest

end

/-- A value as a message of its own: a text stands without quotes. -/
def messageText : Value → Text
  | .string value => value
  | value => value.quotedText

/-- A text or nothing. -/
def ofText? : Option Text → Value
  | some text => .string text
  | none => .null

/-- An integer or nothing. -/
def ofInt? : Option Int → Value
  | some value => .integer value
  | none => .null

end Value

end EmailComposer.Json
