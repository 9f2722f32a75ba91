import EmailComposer.Block.Schema
import EmailComposer.Template.Rules

namespace EmailComposer

/-!
# Template rules as JSON
-/

open EmailComposer.Text
open EmailComposer.Json
open EmailComposer.Schema

/-- Types of templates by name. -/
def TemplateType.options : List (Text × TemplateType) :=
  all.map fun type => (type.name, type)

namespace BlockConstraint

/-- Reads the limits for a type of blocks. -/
def read : Reader BlockConstraint :=
  model "BlockConstraint" fun record =>
    BlockConstraint.mk <$> record.required "min" integer
      <*> record.required "max" integer
      <*> record.required "required" boolean

/-- The limits for a type of blocks as an object. -/
def dump (constraint : BlockConstraint) : Value :=
  .object [("min", .integer constraint.minimum), ("max", .integer constraint.maximum),
    ("required", .boolean constraint.required)]

end BlockConstraint

namespace OrderEntry

/-- The label of the alternatives of a place that name a type of blocks. -/
def typeLabel : Text :=
  "literal[" ++ joinWith "," (BlockType.all.map fun type => quoted type.name) ++ "]"

/-- The label of the alternative that admits any type. -/
def anyLabel : Text :=
  "literal['any']"

/-- Reads a place in an order: one alternative has to fit, or the faults of both are
kept. -/
def read : Reader OrderEntry := fun input =>
  match choice BlockType.options input with
  | .valid type => .valid (.block type)
  | .invalid typeFaults =>
      match choice [("any", OrderEntry.any)] input with
      | .valid entry => .valid entry
      | .invalid anyFaults =>
          .invalid (typeFaults.map (Fault.under (.member typeLabel)) ++
            anyFaults.map (Fault.under (.member anyLabel)))

end OrderEntry

namespace TemplateRules

/-- Reads the rules of a type of templates. -/
def read : Reader TemplateRules :=
  model "TemplateConfiguration" fun record =>
    TemplateRules.mk <$> record.required "template_type" (choice TemplateType.options)
      <*> record.required "allowed_block_types" (list (choice BlockType.options))
      <*> record.required "block_constraints"
        (mapping (choice BlockType.options) BlockConstraint.read)
      <*> record.required "max_total_blocks" integer
      <*> record.required "allow_reordering" boolean
      <*> record.maybe "require_block_order" (list OrderEntry.read)
      <*> record.required "mandatory_blocks" (list (choice BlockType.options))
      <*> record.required "help_section_required" boolean
      <*> record.required "compliance_section_required" boolean

/-- The names of types of blocks. -/
def typeValues (types : List BlockType) : Value :=
  .array (types.map fun type => .string type.name)

/-- The names of the places of an order, if there is one. -/
def orderValue : Option (List OrderEntry) → Value
  | some order => .array (order.map fun entry => .string entry.name)
  | none => .null

/-- The rules of a type of templates as an object. -/
def dump (rules : TemplateRules) : Value :=
  dumpMembers .camel
    [("template_type", .string rules.templateType.name),
      ("allowed_block_types", typeValues rules.allowedBlockTypes),
      ("block_constraints",
        .object (rules.blockConstraints.map fun entry => (entry.1.name, entry.2.dump))),
      ("max_total_blocks", .integer rules.maxTotalBlocks),
      ("allow_reordering", .boolean rules.allowReordering),
      ("require_block_order", orderValue rules.requireBlockOrder),
      ("mandatory_blocks", typeValues rules.mandatoryBlocks),
      ("help_section_required", .boolean rules.helpSectionRequired),
      ("compliance_section_required", .boolean rules.complianceSectionRequired)]

end TemplateRules

end EmailComposer
