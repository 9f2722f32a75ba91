import EmailComposer.Number.Binary64
import EmailComposer.Text.Basic

namespace EmailComposer

/-!
# Blocks

The body of an email is a list of blocks. There are six types of blocks, each a
record of its own; a field that may be left out is an option.
-/

/-- The types of blocks. -/
inductive BlockType where
  | title
  | paragraph
  | image
  | button
  | divider
  | highlightBox
  deriving Repr, DecidableEq

namespace BlockType

/-- All types of blocks. -/
def all : List BlockType :=
  [.title, .paragraph, .image, .button, .divider, .highlightBox]

/-- The name of a type of blocks. -/
def name : BlockType → Text
  | .title => "title"
  | .paragraph => "paragraph"
  | .image => "image"
  | .button => "button"
  | .divider => "divider"
  | .highlightBox => "highlight-box"

/-- The type of blocks with a name. -/
def ofName? (name : Text) : Option BlockType :=
  all.find? fun type => type.name = name

end BlockType

/-- The levels of a heading. -/
inductive HeadingLevel where
  | h1
  | h2
  | h3
  deriving Repr, DecidableEq

/-- Where a line of text is set. -/
inductive TextAlign where
  | left
  | center
  | right
  deriving Repr, DecidableEq

namespace TextAlign

/-- The name of an alignment. -/
def name : TextAlign → Text
  | .left => "left"
  | .center => "center"
  | .right => "right"

end TextAlign

/-- A section heading. -/
structure TitleBlock where
  id : Text
  content : Text
  level : HeadingLevel
  color : Option Text
  paddingBottom : Option Int
  deriving Repr, DecidableEq

/-- Body text with inline formatting tokens. -/
structure ParagraphBlock where
  id : Text
  content : Text
  color : Option Text
  lineHeight : Option Binary64
  paddingBottom : Option Int
  textAlign : Option TextAlign
  deriving Repr, DecidableEq

/-- An image that adapts to the width of the screen. -/
structure ImageBlock where
  id : Text
  src : Text
  alt : Text
  width : Option Int
  height : Option Int
  maxWidth : Option Int
  borderRadius : Option Int
  paddingBottom : Option Int
  deriving Repr, DecidableEq

/-- A link that looks like a button. -/
structure ButtonBlock where
  id : Text
  label : Text
  href : Text
  backgroundColor : Option Text
  textColor : Option Text
  padding : Option Text
  borderRadius : Option Int
  marginTop : Option Int
  paddingBottom : Option Int
  align : Option TextAlign
  deriving Repr, DecidableEq

/-- A horizontal line. -/
structure DividerBlock where
  id : Text
  color : Option Text
  height : Option Int
  margin : Option Int
  deriving Repr, DecidableEq

/-- A box with a background color. -/
structure HighlightBoxBlock where
  id : Text
  content : Text
  backgroundColor : Text
  borderColor : Option Text
  borderLeft : Option Bool
  padding : Option Text
  paddingBottom : Option Int
  borderRadius : Option Int
  deriving Repr, DecidableEq

/-- A block of any type. -/
inductive Block where
  | title (block : TitleBlock)
  | paragraph (block : ParagraphBlock)
  | image (block : ImageBlock)
  | button (block : ButtonBlock)
  | divider (block : DividerBlock)
  | highlightBox (block : HighlightBoxBlock)
  deriving Repr, DecidableEq

namespace Block

/-- The type of a block. -/
def type : Block → BlockType
  | .title _ => .title
  | .paragraph _ => .paragraph
  | .image _ => .image
  | .button _ => .button
  | .divider _ => .divider
  | .highlightBox _ => .highlightBox

/-- The name that tells a block apart from the others of an email. -/
def id : Block → Text
  | .title block => block.id
  | .paragraph block => block.id
  | .image block => block.id
  | .button block => block.id
  | .divider block => block.id
  | .highlightBox block => block.id

end Block

end EmailComposer
