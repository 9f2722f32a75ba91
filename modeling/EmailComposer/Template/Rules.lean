import EmailComposer.Block.Basic

namespace EmailComposer

/-!
# Template rules

Every type of templates has rules for the blocks of its emails: which types are
allowed, how many blocks of a type and in total, in which order, and which fixed
sections there have to be.
-/

/-- The types of templates. -/
inductive TemplateType where
  | openFund
  | closeFund
  | newsletter
  deriving Repr, DecidableEq

namespace TemplateType

/-- All types of templates. -/
def all : List TemplateType :=
  [.openFund, .closeFund, .newsletter]

/-- The name of a type of templates. -/
def name : TemplateType → Text
  | .openFund => "open-fund"
  | .closeFund => "close-fund"
  | .newsletter => "newsletter"

/-- The type of templates with a name. -/
def ofName? (name : Text) : Option TemplateType :=
  all.find? fun type => type.name = name

end TemplateType

/-- How many blocks of a type there may be. -/
structure BlockConstraint where
  minimum : Int
  maximum : Int
  required : Bool
  deriving Repr, DecidableEq

/-- A place in a required order: for a type of blocks or for any. -/
inductive OrderEntry where
  | any
  | block (type : BlockType)
  deriving Repr, DecidableEq

namespace OrderEntry

/-- The name of a place. -/
def name : OrderEntry → Text
  | .any => "any"
  | .block type => type.name

/-- A place admits a type of blocks. -/
def admits (entry : OrderEntry) (type : BlockType) : Bool :=
  match entry with
  | .any => true
  | .block expected => expected = type

end OrderEntry

/-- The rules of a type of templates. -/
structure TemplateRules where
  templateType : TemplateType
  allowedBlockTypes : List BlockType
  blockConstraints : List (BlockType × BlockConstraint)
  maxTotalBlocks : Int
  allowReordering : Bool
  requireBlockOrder : Option (List OrderEntry)
  mandatoryBlocks : List BlockType
  helpSectionRequired : Bool
  complianceSectionRequired : Bool
  deriving Repr, DecidableEq

end EmailComposer
