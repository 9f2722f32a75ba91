import EmailComposer.Document.Section
import EmailComposer.Template.Rules
import EmailComposer.Validation.Issue

namespace EmailComposer

/-!
# Documents

A document is a complete email: the blocks of its body, the fixed sections around
them and what the validator found.
-/

/-- A complete email. -/
structure Document where
  id : Text
  templateType : TemplateType
  version : Int
  blocks : List Block
  header : EmailHeader
  helpSection : Option HelpSection
  complianceSection : Option ComplianceSection
  footer : EmailFooter
  personalizationVariables : Option (List (Text × Text))
  isValid : Option Bool
  validationErrors : List Issue
  deriving Repr, DecidableEq

end EmailComposer
