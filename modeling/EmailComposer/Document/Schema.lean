import EmailComposer.Document.Basic
import EmailComposer.Document.SectionSchema
import EmailComposer.Template.Schema

namespace EmailComposer

/-!
# Documents as JSON
-/

open EmailComposer.Json
open EmailComposer.Schema

namespace Document

/-- The personal data of a document: texts by name. -/
def readPersonalData : Reader (List (Text × Text)) :=
  mapping text text

/-- Reads a document. -/
def read : Reader Document :=
  model "EmailDocument" fun record =>
    Document.mk <$> record.required "id" text
      <*> record.required "template_type" (choice TemplateType.options)
      <*> record.withDefault "version" 1 integer
      <*> record.withDefault "blocks" [] (list Block.read)
      <*> record.required "header" EmailHeader.read
      <*> record.maybe "help_section" HelpSection.read
      <*> record.maybe "compliance_section" ComplianceSection.read
      <*> record.required "footer" EmailFooter.read
      <*> record.maybe "personalization_variables" readPersonalData
      <*> record.maybe "is_valid" boolean
      <*> record.withDefault "validation_errors" [] (list Issue.read)

/-- Personal data as an object, if there is any. -/
def personalDataValue : Option (List (Text × Text)) → Value
  | some entries => .object (entries.map fun entry => (entry.1, .string entry.2))
  | none => .null

/-- The fields of a document besides its name. -/
def dumpFields (document : Document) : Members :=
  [("template_type", .string document.templateType.name),
    ("version", .integer document.version),
    ("blocks", .array (document.blocks.map (Block.dump .camel))),
    ("header", document.header.dump),
    ("help_section", (document.helpSection.map HelpSection.dump).getD .null),
    ("compliance_section", (document.complianceSection.map ComplianceSection.dump).getD .null),
    ("footer", document.footer.dump),
    ("personalization_variables", personalDataValue document.personalizationVariables),
    ("is_valid", booleanValue? document.isValid),
    ("validation_errors", Issue.dumpAll document.validationErrors)]

/-- A document as an object. -/
def dump (document : Document) : Value :=
  dumpMembers .camel (("id", .string document.id) :: document.dumpFields)

/-- A document as an object without its name. -/
def dumpUnnamed (document : Document) : Value :=
  dumpMembers .camel document.dumpFields

end Document

end EmailComposer
