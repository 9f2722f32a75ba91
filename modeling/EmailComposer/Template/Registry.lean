import EmailComposer.Json.Value
import EmailComposer.Template.Rules

namespace EmailComposer.Template

/-!
# Registered templates

The rules of the three types of templates, and how they are looked up.
-/

open EmailComposer.Json

/-- A fund launch needs a strong call to action. -/
def openFund : TemplateRules where
  templateType := .openFund
  allowedBlockTypes := BlockType.all
  blockConstraints :=
    [(.title, ⟨1, 2, true⟩), (.paragraph, ⟨2, 5, true⟩), (.image, ⟨0, 3, false⟩),
      (.button, ⟨1, 2, true⟩), (.divider, ⟨0, 2, false⟩), (.highlightBox, ⟨0, 1, false⟩)]
  maxTotalBlocks := 15
  allowReordering := true
  requireBlockOrder :=
    some [.block .title, .block .paragraph, .block .image, .block .paragraph, .block .button,
      .block .highlightBox]
  mandatoryBlocks := [.title, .paragraph, .button]
  helpSectionRequired := true
  complianceSectionRequired := true

/-- A fund closure is a formal notice. -/
def closeFund : TemplateRules where
  templateType := .closeFund
  allowedBlockTypes := BlockType.all
  blockConstraints :=
    [(.title, ⟨0, 1, false⟩), (.paragraph, ⟨2, 4, true⟩), (.image, ⟨0, 2, false⟩),
      (.button, ⟨0, 1, false⟩), (.divider, ⟨0, 1, false⟩), (.highlightBox, ⟨0, 1, false⟩)]
  maxTotalBlocks := 12
  allowReordering := true
  requireBlockOrder :=
    some [.block .paragraph, .block .divider, .block .paragraph, .block .highlightBox]
  mandatoryBlocks := [.paragraph]
  helpSectionRequired := true
  complianceSectionRequired := true

/-- A newsletter is longer and always has at least one image. -/
def newsletter : TemplateRules where
  templateType := .newsletter
  allowedBlockTypes := BlockType.all
  blockConstraints :=
    [(.title, ⟨1, 2, true⟩), (.paragraph, ⟨3, 8, true⟩), (.image, ⟨1, 4, true⟩),
      (.button, ⟨0, 2, false⟩), (.divider, ⟨0, 3, false⟩), (.highlightBox, ⟨0, 2, false⟩)]
  maxTotalBlocks := 20
  allowReordering := true
  requireBlockOrder :=
    some [.block .title, .block .image, .block .paragraph, .block .divider, .block .paragraph,
      .block .button]
  mandatoryBlocks := [.title, .paragraph, .image]
  helpSectionRequired := true
  complianceSectionRequired := true

/-- The rules of a type of templates. -/
def rules : TemplateType → TemplateRules
  | .openFund => openFund
  | .closeFund => closeFund
  | .newsletter => newsletter

/-- Why no template was found: there is none of that name, or what was given cannot
be the name of anything. -/
inductive LookupError where
  | unknown (name : Text)
  | unhashable (typeName : Text)
  deriving Repr, DecidableEq

/-- The wording of a failure. -/
def LookupError.message : LookupError → Text
  | .unknown name => "Unknown template type: " ++ name
  | .unhashable typeName => "unhashable type: '" ++ typeName ++ "'"

/-- The type of templates that a value names. -/
def find (name : Value) : Except LookupError TemplateType :=
  match name with
  | .string text =>
      match TemplateType.ofName? text with
      | some type => .ok type
      | none => .error (.unknown text)
  | .array _ => .error (.unhashable name.typeName)
  | .object _ => .error (.unhashable name.typeName)
  | _ => .error (.unknown name.messageText)

end EmailComposer.Template
