import EmailComposer.Block.Basic
import EmailComposer.Number.Decimal
import EmailComposer.Style.Color
import EmailComposer.Style.Declaration
import EmailComposer.Token.Expand

namespace EmailComposer.Rendering

/-!
# Rendered blocks

Every block becomes a table of its own, so that old mail clients lay it out alike.
Fields that are left out, colors that are no colors and paddings that are no
paddings fall back to defaults; nothing is refused.
-/

open EmailComposer.Text
open EmailComposer.Markup

/-- The start of a table as wide as its surroundings, up to the style. -/
def tableStart : Text :=
  "<table width=\"100%\" cellpadding=\"0\" cellspacing=\"0\" border=\"0\""

/-- The start tag of a table as wide as its surroundings. -/
def tableTag : Text :=
  tableStart ++ ">"

/-- The start tag of a table with a style of its own. -/
def styledTableTag (style : Style) : Text :=
  tableStart ++ " style=\"" ++ style.print ++ "\">"

/-- A table with a single cell. -/
def cellTable (table : Text) (cell : Style) (content : Text) : Text :=
  table ++ "<tr><td style=\"" ++ cell.print ++ "\">" ++ content ++ "</td></tr></table>"

/-- A color that a style may hold. -/
def isStyleColor (color : Text) : Bool :=
  Color.isHexLine color || color = Color.transparent

/-- A color, or a default if it is left out or cannot be used. -/
def colorOr (default : Text) : Option Text → Text
  | none => default
  | some color => if isStyleColor color then color else default

/-- The units of a length; a bare number has none. -/
def lengthUnits : List Text :=
  ["", "px", "em", "%"]

/-- What follows the fraction of a number, or the number itself if it has none. -/
def dropFraction : Text → Text
  | '.' :: first :: rest =>
      if isDecimalDigit first then
        rest.dropWhile isDecimalDigit
      else
        '.' :: first :: rest
  | text => text

/-- Digits, perhaps a fraction, and a unit. -/
def isLength (text : Text) : Bool :=
  match text with
  | first :: _ =>
      isDecimalDigit first && dropFraction (text.dropWhile isDecimalDigit) ∈ lengthUnits
  | [] => false

/-- One to four lengths with one space between them. -/
def isPadding (text : Text) : Bool :=
  let lengths := fields ' ' text
  lengths.length ≤ 4 && lengths.all isLength

/-- A padding without the blanks around it, or a default if it is left out or cannot be
used. -/
def paddingOr (default : Text) : Option Text → Text
  | none => default
  | some padding => if isPadding (strip padding) then strip padding else default

/-- The size of the letters of a heading. -/
def fontSize : HeadingLevel → Text
  | .h1 => "28px"
  | .h2 => "24px"
  | .h3 => "20px"

/-- The style of the cell of a title. -/
def titleStyle (block : TitleBlock) : Style :=
  [⟨"font-size", fontSize block.level⟩, ⟨"font-weight", "700"⟩,
    ⟨"color", colorOr "#1a1a1a" block.color⟩,
    ⟨"padding-bottom", Declaration.pixels (block.paddingBottom.getD 20)⟩,
    ⟨"margin-top", "0"⟩, ⟨"line-height", "1.3"⟩]

/-- A rendered title. -/
def title (block : TitleBlock) : Text :=
  cellTable tableTag (titleStyle block) (Token.format block.content)

/-- The height of a line as a style writes it. -/
def lineHeight : Option Binary64 → Text
  | none => "1.6"
  | some height => height.styleText

/-- The style of the cell of a paragraph. -/
def paragraphStyle (block : ParagraphBlock) : Style :=
  [⟨"color", colorOr "#334155" block.color⟩, ⟨"line-height", lineHeight block.lineHeight⟩,
    ⟨"padding-bottom", Declaration.pixels (block.paddingBottom.getD 16)⟩,
    ⟨"margin-top", "0"⟩, ⟨"text-align", (block.textAlign.getD .left).name⟩]

/-- A rendered paragraph. -/
def paragraph (block : ParagraphBlock) : Text :=
  cellTable tableTag (paragraphStyle block) (Token.format block.content)

/-- The style of an image. -/
def imageStyle (block : ImageBlock) : Style :=
  let radius := block.borderRadius.getD 0
  let rounded : Style :=
    if 0 < radius then [⟨"border-radius", Declaration.pixels radius⟩] else []
  let size : Style :=
    [⟨"max-width", Declaration.pixels (block.maxWidth.getD 600)⟩, ⟨"width", "100%"⟩,
      ⟨"height", "auto"⟩, ⟨"display", "block"⟩]
  size ++ rounded

/-- The style of the cell of an image. -/
def imageCellStyle (block : ImageBlock) : Style :=
  [⟨"padding-bottom", Declaration.pixels (block.paddingBottom.getD 16)⟩,
    ⟨"margin-top", "0"⟩, ⟨"text-align", "center"⟩]

/-- An integer attribute with the space before it, left out if there is no value. -/
def integerAttribute (name : Text) : Option Int → Text
  | none => []
  | some value => " " ++ name ++ "=\"" ++ ofInt value ++ "\""

/-- A rendered image. -/
def image (block : ImageBlock) : Text :=
  let attributes :=
    "src=\"" ++ escapeWith specTable block.src ++ "\" alt=\"" ++ block.alt ++ "\"" ++
      integerAttribute "width" block.width ++ integerAttribute "height" block.height
  cellTable tableTag (imageCellStyle block)
    ("<img " ++ attributes ++ " style=\"" ++ (imageStyle block).print ++ "\" />")

/-- The style of the link of a button. -/
def buttonStyle (block : ButtonBlock) : Style :=
  [⟨"background-color", colorOr "#006950" block.backgroundColor⟩,
    ⟨"color", colorOr "#ffffff" block.textColor⟩,
    ⟨"padding", paddingOr "10px 16px" block.padding⟩, ⟨"text-decoration", "none"⟩,
    ⟨"border-radius", Declaration.pixels (block.borderRadius.getD 6)⟩,
    ⟨"display", "inline-block"⟩, ⟨"font-weight", "bold"⟩, ⟨"border", "none"⟩,
    ⟨"cursor", "pointer"⟩]

/-- The style of the cell of a button. -/
def buttonCellStyle (block : ButtonBlock) : Style :=
  [⟨"margin-top", Declaration.pixels (block.marginTop.getD 12)⟩,
    ⟨"padding-bottom", Declaration.pixels (block.paddingBottom.getD 0)⟩,
    ⟨"text-align", (block.align.getD .left).name⟩]

/-- A rendered button. Its label is not expanded. -/
def button (block : ButtonBlock) : Text :=
  cellTable tableTag (buttonCellStyle block)
    ("<a href=\"" ++ escapeWith specTable block.href ++ "\" style=\"" ++
      (buttonStyle block).print ++ "\">" ++ block.label ++ "</a>")

/-- A rendered divider: a cell with a border, because mail clients disagree about
horizontal rules. -/
def divider (block : DividerBlock) : Text :=
  let line :=
    "border-bottom: " ++ Declaration.pixels (block.height.getD 1) ++ " solid " ++
      colorOr "#e6e9ee" block.color ++ "; height: 0;"
  let gap := "height: " ++ Declaration.pixels (block.margin.getD 16) ++ ";"
  tableTag ++ "<tr><td style=\"" ++ line ++ "\"></td></tr><tr><td style=\"" ++ gap ++
    "\"></td></tr></table>"

/-- The background of a box; anything but a hexadecimal color paints nothing. -/
def boxBackground (color : Text) : Text :=
  if Color.isHexLine color then
    color
  else
    Color.transparent

/-- The style of a box. A border is drawn if it has a color, and a bar on the left side
if it is wanted besides. -/
def boxStyle (block : HighlightBoxBlock) : Style :=
  let color := colorOr Color.transparent block.borderColor
  let isDrawn := color ≠ Color.transparent
  let border : Style := if isDrawn then [⟨"border", "1px solid " ++ color⟩] else []
  let bar : Style :=
    if isDrawn && block.borderLeft == some true then
      [⟨"border-left", "4px solid " ++ color⟩]
    else
      []
  let area : Style :=
    [⟨"background-color", boxBackground block.backgroundColor⟩,
      ⟨"border-radius", Declaration.pixels (block.borderRadius.getD 8)⟩,
      ⟨"padding-bottom", Declaration.pixels (block.paddingBottom.getD 20)⟩,
      ⟨"margin-top", "0"⟩]
  area ++ border ++ bar

/-- The style of the cell of a box. -/
def boxCellStyle (block : HighlightBoxBlock) : Style :=
  [⟨"padding", paddingOr "20px" block.padding⟩, ⟨"word-wrap", "break-word"⟩]

/-- A rendered box. Its content is not expanded. -/
def highlightBox (block : HighlightBoxBlock) : Text :=
  cellTable (styledTableTag (boxStyle block)) (boxCellStyle block) block.content

/-- What is said about a value of some type that stands in the place of a block. -/
def unknownBlockMessage (typeName : Text) : Text :=
  "Unknown block type: " ++ typeName

/-- A rendered block. -/
def block : Block → Text
  | .title block => title block
  | .paragraph block => paragraph block
  | .image block => image block
  | .button block => button block
  | .divider block => divider block
  | .highlightBox block => highlightBox block

end EmailComposer.Rendering
