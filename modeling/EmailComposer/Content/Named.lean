import EmailComposer.Content.Policy
import EmailComposer.Json.Value

namespace EmailComposer

/-!
# Content policies by name

Text may be sanitized for a type of blocks that is only named. Empty text needs no
policy, so for it any name will do.
-/

open EmailComposer.Text
open EmailComposer.Json

/-- Why a value names no type of blocks: there is none of that name, or the value
cannot be the name of anything. -/
inductive BlockTypeError where
  | unknown (name : Value)
  | unhashable (typeName : Text)
  deriving Repr

/-- The wording of a failure. -/
def BlockTypeError.message : BlockTypeError → Text
  | .unknown name => name.quotedText
  | .unhashable typeName => "unhashable type: '" ++ typeName ++ "'"

namespace BlockType

/-- The type of blocks that a value names. -/
def find (name : Value) : Except BlockTypeError BlockType :=
  match name with
  | .string text =>
      match ofName? text with
      | some type => .ok type
      | none => .error (.unknown name)
  | .array _ => .error (.unhashable name.typeName)
  | .object _ => .error (.unhashable name.typeName)
  | _ => .error (.unknown name)

/-- The sanitized text of a named type of blocks. -/
def sanitizeTextOf (name : Value) (text : Text) : Except BlockTypeError Text :=
  if text.isEmpty then
    .ok []
  else
    (find name).map fun type => type.sanitizeText text

end BlockType

/-- The report on a text of a named type of blocks. -/
def SanitizationReport.ofNamed
    (name : Value)
    (text : Text) : Except BlockTypeError SanitizationReport :=
  if text.isEmpty then
    .ok ⟨[], [], []⟩
  else
    (BlockType.find name).map fun type => ofText type text

end EmailComposer
