import EmailComposer.Document.Basic
import EmailComposer.Style.Color

namespace EmailComposer.Validation

/-!
# Validation rules

Each rule looks at one aspect of a document and lists the issues it finds, block by
block or limit by limit.
-/

open EmailComposer.Text

/-- A document, the rules of its template, and whether to be strict about order. -/
structure Context where
  rules : TemplateRules
  document : Document
  strict : Bool
  deriving Repr, DecidableEq

/-- A named check of one aspect of a document. -/
structure Rule where
  name : Text
  check : Context → List Issue

/-- The type of every block is allowed. -/
def checkTypes (context : Context) : List Issue :=
  let bad := context.document.blocks.filter fun block =>
    block.type ∉ context.rules.allowedBlockTypes
  bad.map fun block =>
    Issue.ofBlock "BLOCK_TYPE_NOT_ALLOWED"
      ("Block type \"" ++ block.type.name ++ "\" is not allowed in " ++
        context.rules.templateType.name ++ " template")
      .error block

/-- The number of blocks of a type. -/
def countOf (type : BlockType) (blocks : List Block) : Nat :=
  blocks.countP fun block => block.type = type

/-- The issues with the number of blocks of one type. -/
def checkCount (count : Nat) (type : BlockType) (constraint : BlockConstraint) : List Issue :=
  let tooFew : List Issue :=
    if count < constraint.minimum then
      [Issue.ofType "MIN_BLOCKS_NOT_MET"
        ("Minimum " ++ ofInt constraint.minimum ++ " " ++ type.name ++
          " block(s) required. Found: " ++ ofNat count)
        (if constraint.required then .error else .warning) type]
    else
      []
  let tooMany : List Issue :=
    if constraint.maximum < count then
      [Issue.ofType "MAX_BLOCKS_EXCEEDED"
        ("Maximum " ++ ofInt constraint.maximum ++ " " ++ type.name ++
          " block(s) allowed. Found: " ++ ofNat count)
        .error type]
    else
      []
  tooFew ++ tooMany

/-- The number of blocks of every type stays within its limits. -/
def checkCounts (context : Context) : List Issue :=
  context.rules.blockConstraints.flatMap fun entry =>
    checkCount (countOf entry.1 context.document.blocks) entry.1 entry.2

/-- The number of all blocks stays within its limit. -/
def checkTotal (context : Context) : List Issue :=
  let total := context.document.blocks.length
  if context.rules.maxTotalBlocks < total then
    [Issue.ofDocument "MAX_TOTAL_BLOCKS_EXCEEDED"
      ("Maximum " ++ ofInt context.rules.maxTotalBlocks ++ " total blocks allowed. Found: " ++
        ofNat total)]
  else
    []

/-- Every mandatory type of blocks is present. -/
def checkMandatory (context : Context) : List Issue :=
  let missing := context.rules.mandatoryBlocks.filter fun type =>
    context.document.blocks.all fun block => block.type ≠ type
  missing.map fun type =>
    Issue.ofType "MANDATORY_BLOCK_MISSING"
      ("Mandatory block type \"" ++ type.name ++ "\" is missing") .error type

/-- The issues with blocks whose name an earlier block has. -/
def duplicatesFrom (seen : List Text) : List Block → List Issue
  | [] => []
  | block :: rest =>
      let found : List Issue :=
        if block.id ∈ seen then
          [Issue.ofBlock "DUPLICATE_BLOCK_ID" ("Duplicate block ID: " ++ block.id) .error block]
        else
          []
      found ++ duplicatesFrom (block.id :: seen) rest

/-- No two blocks have the same name. -/
def checkUniqueness (context : Context) : List Issue :=
  duplicatesFrom [] context.document.blocks

/-- An issue if a condition holds. -/
def issueIf (condition : Bool) (issue : Issue) : List Issue :=
  if condition then
    [issue]
  else
    []

/-- The issues with the content of a title. -/
def checkTitle (title : TitleBlock) : List Issue :=
  issueIf (isAllBlank title.content)
    (.ofBlock "EMPTY_TITLE" "Title block cannot be empty" .error (.title title))

/-- The issues with the content of a paragraph. -/
def checkParagraph (paragraph : ParagraphBlock) : List Issue :=
  issueIf (isAllBlank paragraph.content)
    (.ofBlock "EMPTY_PARAGRAPH" "Paragraph block cannot be empty" .error
      (.paragraph paragraph))

/-- The issues with the source and the alternative text of an image. -/
def checkImage (image : ImageBlock) : List Issue :=
  let block := Block.image image
  let source : List Issue :=
    if isAllBlank image.src then
      [.ofBlock "MISSING_IMAGE_SRC" "Image block must have a source URL" .error block]
    else
      issueIf (!startsWith "https://" image.src)
        (.ofBlock "INVALID_IMAGE_PROTOCOL" "Image URL must use HTTPS protocol" .error block)
  source ++
    issueIf (isAllBlank image.alt)
      (.ofBlock "MISSING_IMAGE_ALT" "Image block must have alt text for accessibility" .error
        block)

/-- The issues with the label and the target of a button. -/
def checkButton (button : ButtonBlock) : List Issue :=
  let block := Block.button button
  let target : List Issue :=
    if isAllBlank button.href then
      [.ofBlock "MISSING_BUTTON_HREF" "Button block must have a URL" .error block]
    else
      issueIf (!startsWith "https://" button.href && !startsWith "http://" button.href)
        (.ofBlock "INVALID_BUTTON_PROTOCOL" "Button URL must use HTTP or HTTPS protocol" .error
          block)
  issueIf (isAllBlank button.label)
    (.ofBlock "EMPTY_BUTTON_LABEL" "Button block must have a label" .error block) ++ target

/-- The issues with the content and the background of a box. -/
def checkHighlightBox (box : HighlightBoxBlock) : List Issue :=
  let block := Block.highlightBox box
  issueIf (isAllBlank box.content)
    (.ofBlock "EMPTY_HIGHLIGHT_BOX" "Highlight box cannot be empty" .error block) ++
  issueIf box.backgroundColor.isEmpty
    (.ofBlock "MISSING_HIGHLIGHT_COLOR" "Highlight box must have a background color" .warning
      block)

/-- The issues with the content of one block. -/
def checkBlockContent : Block → List Issue
  | .title title => checkTitle title
  | .paragraph paragraph => checkParagraph paragraph
  | .image image => checkImage image
  | .button button => checkButton button
  | .divider _ => []
  | .highlightBox box => checkHighlightBox box

/-- Every block has the content that its type needs. -/
def checkContent (context : Context) : List Issue :=
  context.document.blocks.flatMap checkBlockContent

/-- The colors of a block, each with the words for its field. -/
def colorFields : Block → List (Text × Option Text)
  | .title block => [("color", block.color)]
  | .paragraph block => [("color", block.color)]
  | .image _ => []
  | .button block =>
      [("background color", block.backgroundColor), ("text color", block.textColor)]
  | .divider block => [("color", block.color)]
  | .highlightBox block =>
      [("background color", some block.backgroundColor), ("border color", block.borderColor)]

/-- A color that is given and that is no hexadecimal color. -/
def isBadColor (color : Text) : Bool :=
  !color.isEmpty && !Color.isHexLine color

/-- The issues with the colors of one block. -/
def checkBlockColors (block : Block) : List Issue :=
  (colorFields block).flatMap fun field =>
    match field.2 with
    | none => []
    | some color =>
        issueIf (isBadColor color)
          (.ofBlock "INVALID_COLOR_FORMAT"
            ("Invalid " ++ field.1 ++ " format: " ++ color ++ ". Use hex format like #FF5733")
            .error block)

/-- Every color is a hexadecimal color. -/
def checkColors (context : Context) : List Issue :=
  context.document.blocks.flatMap checkBlockColors

/-- The first place of an order that admits a type of blocks. -/
def position? (order : List OrderEntry) (type : BlockType) : Option Nat :=
  order.findIdx? fun entry => entry.admits type

/-- A block at a position comes too late after one at an earlier position; one without
a place in the order comes too late after any that has one. -/
def isOutOfOrder (position : Option Nat) : Option Nat → Bool
  | none => false
  | some last =>
      match position with
      | some index => index < last
      | none => true

/-- The blocks that come too late, where `last` is the position of the nearest earlier
block that has one. -/
def outOfOrderFrom (order : List OrderEntry) (last : Option Nat) : List Block → List Block
  | [] => []
  | block :: rest =>
      let position := position? order block.type
      let later := outOfOrderFrom order (position <|> last) rest
      if isOutOfOrder position last then
        block :: later
      else
        later

/-- The order that the rules enforce, if they enforce one. -/
def enforcedOrder? (rules : TemplateRules) : Option (List OrderEntry) :=
  if rules.allowReordering then
    none
  else
    rules.requireBlockOrder

/-- The blocks stand in the required order. -/
def checkOrder (context : Context) : List Issue :=
  match enforcedOrder? context.rules with
  | none => []
  | some [] => []
  | some order =>
      (outOfOrderFrom order none context.document.blocks).map fun block =>
        Issue.ofBlock "BLOCK_ORDER_VIOLATION"
          ("Block \"" ++ block.type.name ++ "\" appears out of order. Expected order: " ++
            joinWith " → " (order.map OrderEntry.name))
          (if context.strict then .error else .warning) block

/-- The required fixed sections are present. -/
def checkSections (context : Context) : List Issue :=
  issueIf (context.rules.helpSectionRequired && context.document.helpSection.isNone)
    (.ofDocument "HELP_SECTION_MISSING" "Help section is required for this template") ++
  issueIf (context.rules.complianceSectionRequired && context.document.complianceSection.isNone)
    (.ofDocument "COMPLIANCE_SECTION_MISSING"
      "Compliance section is required for this template")

/-- All rules, in the order in which their issues are listed. -/
def allRules : List Rule :=
  [⟨"BLOCK_TYPE_ALLOWED", checkTypes⟩, ⟨"BLOCK_COUNT_CONSTRAINT", checkCounts⟩,
    ⟨"TOTAL_BLOCK_COUNT", checkTotal⟩, ⟨"MANDATORY_BLOCKS", checkMandatory⟩,
    ⟨"BLOCK_ID_UNIQUENESS", checkUniqueness⟩, ⟨"BLOCK_CONTENT", checkContent⟩,
    ⟨"COLOR_FORMAT", checkColors⟩, ⟨"BLOCK_ORDER", checkOrder⟩,
    ⟨"FIXED_SECTIONS", checkSections⟩]

end EmailComposer.Validation
