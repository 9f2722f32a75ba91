import EmailComposer.Block.Basic
import EmailComposer.Schema.Reader

namespace EmailComposer

/-!
# Blocks as JSON

Every type of blocks is read from an object whose `type` member names it, and dumped
as such an object with all its fields. Dumps come in both spellings of field names.
-/

open EmailComposer.Json
open EmailComposer.Schema

namespace BlockType

/-- Types of blocks by name. -/
def options : List (Text × BlockType) :=
  all.map fun type => (type.name, type)

end BlockType

/-- The levels of a heading by name. -/
def HeadingLevel.options : List (Text × HeadingLevel) :=
  [("h1", .h1), ("h2", .h2), ("h3", .h3)]

/-- The name of a level. -/
def HeadingLevel.name : HeadingLevel → Text
  | .h1 => "h1"
  | .h2 => "h2"
  | .h3 => "h3"

/-- Alignments by name. -/
def TextAlign.options : List (Text × TextAlign) :=
  [("left", .left), ("center", .center), ("right", .right)]

/-- A floating-point number or nothing. -/
def floatValue? : Option Binary64 → Value
  | some number => .float number
  | none => .null

/-- A truth value or nothing. -/
def booleanValue? : Option Bool → Value
  | some value => .boolean value
  | none => .null

/-- The name of an alignment or nothing. -/
def alignValue? : Option TextAlign → Value
  | some align => .string align.name
  | none => .null

namespace TitleBlock

/-- Reads the fields of a heading. -/
def read (record : Record) : Checked TitleBlock :=
  TitleBlock.mk <$> record.required "id" text
    <*> record.required "content" text
    <*> record.withDefault "level" .h2 (choice HeadingLevel.options)
    <*> record.maybe "color" text
    <*> record.maybe "padding_bottom" integer

/-- The fields of a heading. -/
def dump (block : TitleBlock) : Members :=
  [("type", .string BlockType.title.name), ("id", .string block.id),
    ("content", .string block.content), ("level", .string block.level.name),
    ("color", .ofText? block.color), ("padding_bottom", .ofInt? block.paddingBottom)]

end TitleBlock

namespace ParagraphBlock

/-- Reads the fields of body text. -/
def read (record : Record) : Checked ParagraphBlock :=
  ParagraphBlock.mk <$> record.required "id" text
    <*> record.required "content" text
    <*> record.maybe "color" text
    <*> record.maybe "line_height" float
    <*> record.maybe "padding_bottom" integer
    <*> record.maybe "text_align" (choice TextAlign.options)

/-- The fields of body text. -/
def dump (block : ParagraphBlock) : Members :=
  [("type", .string BlockType.paragraph.name), ("id", .string block.id),
    ("content", .string block.content), ("color", .ofText? block.color),
    ("line_height", floatValue? block.lineHeight),
    ("padding_bottom", .ofInt? block.paddingBottom),
    ("text_align", alignValue? block.textAlign)]

end ParagraphBlock

namespace ImageBlock

/-- Reads the fields of an image. -/
def read (record : Record) : Checked ImageBlock :=
  ImageBlock.mk <$> record.required "id" text
    <*> record.required "src" text
    <*> record.required "alt" text
    <*> record.maybe "width" integer
    <*> record.maybe "height" integer
    <*> record.maybe "max_width" integer
    <*> record.maybe "border_radius" integer
    <*> record.maybe "padding_bottom" integer

/-- The fields of an image. -/
def dump (block : ImageBlock) : Members :=
  [("type", .string BlockType.image.name), ("id", .string block.id),
    ("src", .string block.src), ("alt", .string block.alt),
    ("width", .ofInt? block.width), ("height", .ofInt? block.height),
    ("max_width", .ofInt? block.maxWidth), ("border_radius", .ofInt? block.borderRadius),
    ("padding_bottom", .ofInt? block.paddingBottom)]

end ImageBlock

namespace ButtonBlock

/-- Reads the fields of a button. -/
def read (record : Record) : Checked ButtonBlock :=
  ButtonBlock.mk <$> record.required "id" text
    <*> record.required "label" text
    <*> record.required "href" text
    <*> record.maybe "background_color" text
    <*> record.maybe "text_color" text
    <*> record.maybe "padding" text
    <*> record.maybe "border_radius" integer
    <*> record.maybe "margin_top" integer
    <*> record.maybe "padding_bottom" integer
    <*> record.maybe "align" (choice TextAlign.options)

/-- The fields of a button. -/
def dump (block : ButtonBlock) : Members :=
  [("type", .string BlockType.button.name), ("id", .string block.id),
    ("label", .string block.label), ("href", .string block.href),
    ("background_color", .ofText? block.backgroundColor),
    ("text_color", .ofText? block.textColor), ("padding", .ofText? block.padding),
    ("border_radius", .ofInt? block.borderRadius), ("margin_top", .ofInt? block.marginTop),
    ("padding_bottom", .ofInt? block.paddingBottom), ("align", alignValue? block.align)]

end ButtonBlock

namespace DividerBlock

/-- Reads the fields of a line. -/
def read (record : Record) : Checked DividerBlock :=
  DividerBlock.mk <$> record.required "id" text
    <*> record.maybe "color" text
    <*> record.maybe "height" integer
    <*> record.maybe "margin" integer

/-- The fields of a line. -/
def dump (block : DividerBlock) : Members :=
  [("type", .string BlockType.divider.name), ("id", .string block.id),
    ("color", .ofText? block.color), ("height", .ofInt? block.height),
    ("margin", .ofInt? block.margin)]

end DividerBlock

namespace HighlightBoxBlock

/-- Reads the fields of a box. -/
def read (record : Record) : Checked HighlightBoxBlock :=
  HighlightBoxBlock.mk <$> record.required "id" text
    <*> record.required "content" text
    <*> record.required "background_color" text
    <*> record.maybe "border_color" text
    <*> record.maybe "border_left" boolean
    <*> record.maybe "padding" text
    <*> record.maybe "padding_bottom" integer
    <*> record.maybe "border_radius" integer

/-- The fields of a box. -/
def dump (block : HighlightBoxBlock) : Members :=
  [("type", .string BlockType.highlightBox.name), ("id", .string block.id),
    ("content", .string block.content),
    ("background_color", .string block.backgroundColor),
    ("border_color", .ofText? block.borderColor),
    ("border_left", booleanValue? block.borderLeft), ("padding", .ofText? block.padding),
    ("padding_bottom", .ofInt? block.paddingBottom),
    ("border_radius", .ofInt? block.borderRadius)]

end HighlightBoxBlock

namespace Block

/-- Reads the fields of a block of a given type. -/
def readFields : BlockType → Record → Checked Block
  | .title, record => Block.title <$> TitleBlock.read record
  | .paragraph, record => Block.paragraph <$> ParagraphBlock.read record
  | .image, record => Block.image <$> ImageBlock.read record
  | .button, record => Block.button <$> ButtonBlock.read record
  | .divider, record => Block.divider <$> DividerBlock.read record
  | .highlightBox, record => Block.highlightBox <$> HighlightBoxBlock.read record

/-- Reads a block of any type. -/
def read : Reader Block :=
  tagged "type" (BlockType.all.map fun type => (type.name, readFields type))

/-- The fields of a block. -/
def fields : Block → Members
  | .title block => block.dump
  | .paragraph block => block.dump
  | .image block => block.dump
  | .button block => block.dump
  | .divider block => block.dump
  | .highlightBox block => block.dump

/-- A block as an object whose fields have one spelling of their names. -/
def dump (spelling : Spelling) (block : Block) : Value :=
  dumpMembers spelling block.fields

end Block

end EmailComposer
