import EmailComposer.Proofs.Markup.Tag
import EmailComposer.Proofs.Rendering.Style

namespace EmailComposer

/-!
# The frame of a rendered block

A block is rendered as a frame of tags with its texts put in. The frame is what is left if
the texts are empty, and it depends on the other fields of the block only. Its tags are read
back one by one, and the style of each declares the properties that its type of block has,
whatever the fields hold.
-/

open EmailComposer.Text
open EmailComposer.Markup

namespace Block

/-- The block with empty texts. All its other fields stay as they are. -/
def withoutTexts : Block → Block
  | .title block => .title { block with content := [] }
  | .paragraph block => .paragraph { block with content := [] }
  | .image block => .image { block with src := [], alt := [] }
  | .button block => .button { block with label := [], href := [] }
  | .divider block => .divider block
  | .highlightBox block => .highlightBox { block with content := [] }

/-- What a rendered block shows of its texts. -/
def shownTexts : Block → List Text
  | .title block => [Token.format block.content]
  | .paragraph block => [Token.format block.content]
  | .image block => [escapeWith specTable block.src, block.alt]
  | .button block => [escapeWith specTable block.href, block.label]
  | .divider _ => []
  | .highlightBox block => [block.content]

end Block

namespace Rendering

/-! ## Texts in a frame -/

/-- Where a frame takes a text: behind a tag that ends with a style, or at the beginning of an
address or of an alternative text. Never within a style, which holds no quote. -/
def textPlaces : List Text :=
  ["\">", "src=\"", "alt=\"", "href=\""]

/-- A text may stand behind this part of a frame. -/
def TakesText (own : Text) : Prop :=
  ∃ place ∈ textPlaces, place <:+ own

instance (own : Text) : Decidable (TakesText own) :=
  inferInstanceAs (Decidable (∃ place ∈ textPlaces, place <:+ own))

theorem TakesText.prepend
    {own : Text}
    (takes : TakesText own)
    (start : Text) :
    TakesText (start ++ own) := by
  obtain ⟨place, isPlace, isSuffix⟩ := takes
  exact ⟨place, isPlace, isSuffix.trans (List.suffix_append start own)⟩

/-- The whole is the frame with the texts put in where it takes them, one after another. -/
inductive Fills : List Text → Text → Text → Prop
  | done (own : Text) : Fills [] own own
  | put
      {own : Text}
      (takes : TakesText own)
      (text : Text)
      {others : List Text}
      {frame whole : Text}
      (fills : Fills others frame whole) :
      Fills (text :: others) (own ++ frame) (own ++ (text ++ whole))

namespace Fills

variable {texts : List Text} {frame whole : Text}

theorem prepend
    (start : Text)
    (fills : Fills texts frame whole) :
    Fills texts (start ++ frame) (start ++ whole) := by
  cases fills with
  | done => exact .done _
  | put takes text fills =>
      rw [← List.append_assoc start, ← List.append_assoc start]
      exact .put (takes.prepend start) text fills

theorem append
    (fills : Fills texts frame whole)
    (ending : Text) :
    Fills texts (frame ++ ending) (whole ++ ending) := by
  induction fills with
  | done => exact .done _
  | put takes text fills inductionHypothesis =>
      simp only [List.append_assoc]
      exact .put takes text inductionHypothesis

theorem cellTable
    (table : Text)
    (cell : Style)
    (fills : Fills texts frame whole) :
    Fills texts (Rendering.cellTable table cell frame) (Rendering.cellTable table cell whole) :=
  (fills.prepend _).append _

end Fills

/-- The content of a cell is put in behind its tag. -/
theorem fills_cell
    (table : Text)
    (cell : Style)
    (content : Text) :
    Fills [content] (cellTable table cell []) (cellTable table cell content) := by
  have takes : TakesText (table ++ "<tr><td style=\"" ++ cell.print ++ "\">") :=
    ⟨"\">", by decide, List.suffix_append _ _⟩
  have filled := Fills.put takes content (.done "</td></tr></table>")
  simp only [cellTable, List.append_assoc, List.nil_append] at filled ⊢
  exact filled

theorem escapeWith_nil
    (table : EscapeTable) :
    escapeWith table [] = [] :=
  rfl

theorem format_nil : Token.format [] = [] := by
  simp [Token.format, Token.expand, Token.expandSpans, Token.expandBold]

/-- A rendered block is its frame with its texts put in. -/
theorem fills_block
    (source : Block) :
    Fills source.shownTexts (block source.withoutTexts) (block source) := by
  have address : TakesText "<a href=\"" := by
    decide
  cases source with
  | title source =>
      have filled := fills_cell tableTag (titleStyle source) (Token.format source.content)
      rw [← format_nil] at filled
      exact filled
  | paragraph source =>
      have filled := fills_cell tableTag (paragraphStyle source) (Token.format source.content)
      rw [← format_nil] at filled
      exact filled
  | highlightBox source => exact fills_cell _ _ _
  | divider source => exact .done _
  | button source =>
      have label : TakesText ("\" style=\"" ++ ((buttonStyle source).print ++ "\">")) :=
        TakesText.prepend (TakesText.prepend (by decide) _) _
      have filled := Fills.put address (escapeWith specTable source.href)
        (.put label source.label (.done "</a>"))
      apply Fills.cellTable
      simp only [List.append_assoc, escapeWith_nil, List.nil_append] at filled ⊢
      exact filled
  | image source =>
      apply Fills.cellTable
      simp only [List.append_assoc, escapeWith_nil, List.nil_append]
      apply Fills.prepend
      apply Fills.put (by decide)
      exact .put (by decide) _ (.done _)

/-! ## Tags of a frame -/

/-- An opening tag. -/
def opening (name : Text) (attributes : List Attribute) : TagView :=
  ⟨false, name, false, attributes⟩

/-- A closing tag. -/
def closing (name : Text) : TagView :=
  ⟨true, name, false, []⟩

/-- Tags in normal form, one behind the other. -/
def printTags (views : List TagView) : Text :=
  views.flatMap fun view => view.print.raw

/-- The attributes of every table. -/
def tableAttributes : List Attribute :=
  [("width", "100%"), ("cellpadding", "0"), ("cellspacing", "0"), ("border", "0")]

/-- The tags of a table, with more attributes than every table has. -/
def tableTags (attributes : List Attribute) (content : List TagView) : List TagView :=
  opening "table" (tableAttributes ++ attributes) :: (content ++ [closing "table"])

/-- The tags of a row with one cell. -/
def rowTags (style : Text) (content : List TagView) : List TagView :=
  opening "tr" [] :: opening "td" [("style", style)] :: (content ++ [closing "td", closing "tr"])

/-- An integer attribute, if there is a value. -/
def integerEntry (name : Text) (value : Option Int) : List Attribute :=
  value.toList.map fun value => (name, ofInt value)

/-- The tag of an image. -/
def imageTag (block : ImageBlock) : TagView where
  closing := false
  name := "img"
  selfClosing := true
  attributes :=
    ("src", []) :: ("alt", []) ::
      (integerEntry "width" block.width ++
        (integerEntry "height" block.height ++
          ([("style", (imageStyle block).print)] : List Attribute)))

/-- The tags of the frame of a block. -/
def frameTags : Block → List TagView
  | .title block => tableTags [] (rowTags (titleStyle block).print [])
  | .paragraph block => tableTags [] (rowTags (paragraphStyle block).print [])
  | .image block =>
      tableTags [] (rowTags (imageCellStyle block).print [imageTag block])
  | .button block =>
      tableTags [] (rowTags (buttonCellStyle block).print
        [opening "a" [("href", []), ("style", (buttonStyle block).print)], closing "a"])
  | .divider block =>
      tableTags [] (rowTags (lineStyle block) [] ++ rowTags (gapStyle block) [])
  | .highlightBox block =>
      tableTags [("style", (boxStyle block).print)] (rowTags (boxCellStyle block).print [])

section Print

theorem printTags_append
    (first second : List TagView) :
    printTags (first ++ second) = printTags first ++ printTags second :=
  List.flatMap_append

theorem printTags_cons
    (first : TagView)
    (rest : List TagView) :
    printTags (first :: rest) = first.print.raw ++ printTags rest :=
  rfl

theorem raw_opening
    (name : Text)
    (attributes : List Attribute) :
    (opening name attributes).print.raw =
      "<" ++ (name ++ (attributes.flatMap printAttribute ++ ">")) := by
  simp [opening, TagView.print, TagView.body, TagView.ending, Tag.raw]

theorem raw_selfClosing
    (name : Text)
    (attributes : List Attribute) :
    (⟨false, name, true, attributes⟩ : TagView).print.raw =
      "<" ++ (name ++ (attributes.flatMap printAttribute ++ (" /" ++ ">"))) := by
  simp [TagView.print, TagView.body, TagView.ending, Tag.raw]

theorem flatMap_printAttribute_style
    (style : Text) :
    ([("style", style)] : List Attribute).flatMap printAttribute =
      " style=\"" ++ (style ++ "\"") := by
  simp [printAttribute]

theorem printTags_rowTags
    (style : Text)
    (content : List TagView) :
    printTags (rowTags style content) =
      "<tr><td style=\"" ++ (style ++ ("\">" ++ (printTags content ++ "</td></tr>"))) := by
  have row : ("<tr><td style=\"" : Text) =
      (opening "tr" []).print.raw ++ ("<" ++ ("td" ++ " style=\"")) := by
    decide
  have behind : ("\">" : Text) = "\"" ++ ">" := by
    decide
  have ending : printTags [closing "td", closing "tr"] = "</td></tr>" := by
    decide
  rw [rowTags, printTags_cons, printTags_cons, printTags_append, raw_opening "td",
    flatMap_printAttribute_style, ending, row, behind]
  simp only [List.append_assoc]

theorem printTags_tableTags
    (content : List TagView) :
    printTags (tableTags [] content) = tableTag ++ (printTags content ++ "</table>") := by
  have start : (opening "table" (tableAttributes ++ [])).print.raw = tableTag := by
    decide
  have ending : printTags [closing "table"] = "</table>" := by
    decide
  rw [tableTags, printTags_cons, printTags_append, start, ending]

theorem printTags_styledTableTags
    (style : Style)
    (content : List TagView) :
    printTags (tableTags [("style", style.print)] content) =
      styledTableTag style ++ (printTags content ++ "</table>") := by
  have start : tableStart = "<" ++ ("table" ++ tableAttributes.flatMap printAttribute) := by
    decide
  have behind : ("\">" : Text) = "\"" ++ ">" := by
    decide
  have ending : printTags [closing "table"] = "</table>" := by
    decide
  rw [tableTags, printTags_cons, printTags_append, raw_opening, List.flatMap_append,
    flatMap_printAttribute_style, ending, styledTableTag, start, behind]
  simp only [List.append_assoc]

theorem flatMap_integerEntry
    (name : Text)
    (value : Option Int) :
    (integerEntry name value).flatMap printAttribute = integerAttribute name value := by
  cases value with
  | none => rfl
  | some value => simp [integerEntry, integerAttribute, printAttribute]

/-- A cell is a row of its table. -/
theorem cellTable_eq
    (table : Text)
    (cell : Style)
    (content : List TagView) :
    cellTable table cell (printTags content) =
      table ++ (printTags (rowTags cell.print content) ++ "</table>") := by
  have ending : ("</td></tr></table>" : Text) = "</td></tr>" ++ "</table>" := by
    decide
  simp only [cellTable, printTags_rowTags, ending, List.append_assoc]

/-- The frame of the link of a button. -/
theorem printTags_link
    (style : Style) :
    printTags [opening "a" [("href", []), ("style", style.print)], closing "a"] =
      ("<a href=\"" : Text) ++ escapeWith specTable ([] : Text) ++ "\" style=\"" ++
        style.print ++ "\">" ++ ([] : Text) ++ "</a>" := by
  have attributes :
      ([("href", []), ("style", style.print)] : List Attribute).flatMap printAttribute =
        " href=\"\"" ++ (" style=\"" ++ (style.print ++ "\"")) := by
    rw [← flatMap_printAttribute_style]
    rfl
  have start : ("<a href=\"" ++ escapeWith specTable ([] : Text) ++ "\" style=\"" : Text) =
      "<" ++ ("a" ++ (" href=\"\"" ++ " style=\"")) := by
    decide
  have behind : ("\">" : Text) = "\"" ++ ">" := by
    decide
  have ending : printTags [closing "a"] = "</a>" := by
    decide
  rw [printTags_cons, raw_opening, attributes, ending, start, behind]
  simp only [List.append_assoc, List.nil_append]

theorem raw_imageTag
    (block : ImageBlock) :
    (imageTag block).print.raw =
      ("<img " : Text) ++
        (("src=\"" : Text) ++ escapeWith specTable ([] : Text) ++ "\" alt=\"" ++
          ([] : Text) ++ "\"" ++ integerAttribute "width" block.width ++
            integerAttribute "height" block.height) ++
          " style=\"" ++ (imageStyle block).print ++ "\" />" := by
  have attributes : (imageTag block).attributes.flatMap printAttribute =
      " src=\"\"" ++ (" alt=\"\"" ++ (integerAttribute "width" block.width ++
        (integerAttribute "height" block.height ++
          (" style=\"" ++ ((imageStyle block).print ++ "\""))))) := by
    rw [← flatMap_printAttribute_style, ← flatMap_integerEntry, ← flatMap_integerEntry,
      ← List.flatMap_append, ← List.flatMap_append]
    rfl
  have tag : (imageTag block).print.raw =
      "<" ++ ("img" ++ ((imageTag block).attributes.flatMap printAttribute ++ (" /" ++ ">"))) :=
    raw_selfClosing _ _
  have start : ("<img " : Text) ++ (("src=\"" : Text) ++
      (escapeWith specTable ([] : Text) ++ ("\" alt=\"" ++ (([] : Text) ++ "\"")))) =
      "<" ++ ("img" ++ (" src=\"\"" ++ " alt=\"\"")) := by
    decide
  have ending : ("\" />" : Text) = "\"" ++ (" /" ++ ">") := by
    decide
  calc
    (imageTag block).print.raw
      = ("<" ++ ("img" ++ (" src=\"\"" ++ " alt=\"\""))) ++ (integerAttribute "width" block.width ++
        (integerAttribute "height" block.height ++
          (" style=\"" ++ ((imageStyle block).print ++ ("\"" ++ (" /" ++ ">")))))) := by
        rw [tag, attributes]
        simp only [List.append_assoc]
    _ = _ := by
        rw [← start, ← ending]
        simp only [List.append_assoc]

/-- The frame of a block is made of its tags. -/
theorem block_withoutTexts
    (source : Block) :
    block source.withoutTexts = printTags (frameTags source) := by
  cases source with
  | title source =>
      rw [frameTags, printTags_tableTags, ← cellTable_eq]
      exact congrArg (cellTable tableTag (titleStyle source)) format_nil
  | paragraph source =>
      rw [frameTags, printTags_tableTags, ← cellTable_eq]
      exact congrArg (cellTable tableTag (paragraphStyle source)) format_nil
  | highlightBox source =>
      rw [frameTags, printTags_styledTableTags, ← cellTable_eq]
      rfl
  | divider source =>
      have between : ("\"></td></tr><tr><td style=\"" : Text) =
          "\">" ++ ("</td></tr>" ++ "<tr><td style=\"") := by
        decide
      have ending : ("\"></td></tr></table>" : Text) = "\">" ++ ("</td></tr>" ++ "</table>") := by
        decide
      have nothing : printTags [] = [] := rfl
      rw [frameTags, printTags_tableTags, printTags_append, printTags_rowTags, printTags_rowTags,
        nothing]
      show divider source = _
      rw [divider_eq, between, ending]
      simp only [List.append_assoc, List.nil_append]
  | button source =>
      rw [frameTags, printTags_tableTags, ← cellTable_eq, printTags_link]
      rfl
  | image source =>
      have single : printTags [imageTag source] = (imageTag source).print.raw :=
        List.append_nil _
      rw [frameTags, printTags_tableTags, ← cellTable_eq, single, raw_imageTag]
      rfl

end Print

/-! ## Styles of a frame -/

/-- The styles among some attributes. -/
def styleValues (attributes : List Attribute) : List Text :=
  (attributes.filter fun entry => entry.1 = ("style" : Text)).map Prod.snd

/-- The styles of the tags of a markup, each with the name of its tag. -/
def styledTags (html : Text) : List (Text × Text) :=
  (tags html).flatMap fun element =>
    (styleValues element.attributes).map fun style => (element.name, style)

/-- What the style of a tag declares: some properties always, others perhaps behind them. -/
structure StyleShape where
  tagName : Text
  fixed : List Text
  optional : List Text

namespace StyleShape

/-- A tag has a style of the shape. Splitting the style gives the properties in order, and no
value holds a character that could end it. -/
structure Fits (shape : StyleShape) (styled : Text × Text) : Prop where
  tagName : styled.1 = shape.tagName
  properties :
    ∃ others : List Text,
      others.Sublist shape.optional ∧
        (splitDeclarations styled.2).map (fun declared => strip declared.1) =
          shape.fixed ++ others
  values :
    ∀ declared ∈ splitDeclarations styled.2,
      ∃ value, declared.2 = some value ∧ Avoids styleStops value

end StyleShape

end Rendering

namespace BlockType

open Rendering

/-- The styles in the frame of a type of blocks, in order. -/
def styleShapes : BlockType → List StyleShape
  | .title =>
      [⟨"td", ["font-size", "font-weight", "color", "padding-bottom", "margin-top",
        "line-height"], []⟩]
  | .paragraph =>
      [⟨"td", ["color", "line-height", "padding-bottom", "margin-top", "text-align"], []⟩]
  | .image =>
      [⟨"td", ["padding-bottom", "margin-top", "text-align"], []⟩,
        ⟨"img", ["max-width", "width", "height", "display"], ["border-radius"]⟩]
  | .button =>
      [⟨"td", ["margin-top", "padding-bottom", "text-align"], []⟩,
        ⟨"a", ["background-color", "color", "padding", "text-decoration", "border-radius",
          "display", "font-weight", "border", "cursor"], []⟩]
  | .divider => [⟨"td", ["border-bottom", "height"], []⟩, ⟨"td", ["height"], []⟩]
  | .highlightBox =>
      [⟨"table", ["background-color", "border-radius", "padding-bottom", "margin-top"],
        ["border", "border-left"]⟩,
        ⟨"td", ["padding", "word-wrap"], []⟩]

end BlockType

namespace Rendering

section Fits

/-- A space stands in front of every value. -/
theorem avoids_space : Avoids styleStops [' '] := by
  decide

/-- A contained style fits its shape when it is printed. -/
theorem IsContained.fits
    {style : Style}
    (contained : IsContained style)
    {shape : StyleShape}
    {others : List Text}
    (isOptional : others.Sublist shape.optional)
    (properties :
      (style.map fun declaration => strip declaration.property) = shape.fixed ++ others) :
    shape.Fits (shape.tagName, style.print) where
  tagName := rfl
  properties := by
    refine ⟨others, isOptional, ?_⟩
    rw [contained.splitDeclarations_print, List.map_map]
    exact properties
  values := by
    intro declared isDeclared
    rw [contained.splitDeclarations_print] at isDeclared
    obtain ⟨declaration, member, rfl⟩ := List.mem_map.mp isDeclared
    exact ⟨_, rfl, avoids_space.append (contained declaration member).2⟩

/-- So does the style of the line of a divider. -/
theorem fits_lineStyle
    (block : DividerBlock) :
    (⟨"td", ["border-bottom", "height"], []⟩ : StyleShape).Fits ("td", lineStyle block) := by
  have split := splitDeclarations_lineStyle block
  have line : Avoids styleStops (dividerLine block).value :=
    (isContained_dividerLine block _ (by simp)).2
  refine ⟨rfl, ⟨[], by simp, ?_⟩, ?_⟩
  · rw [split]
    rfl
  · rw [split]
    intro declared isDeclared
    rcases List.mem_pair.mp isDeclared with rfl | rfl
    · exact ⟨_, rfl, avoids_space.append line⟩
    · exact ⟨_, rfl, by decide⟩

/-- So does the style of the gap below it. -/
theorem fits_gapStyle
    (block : DividerBlock) :
    (⟨"td", ["height"], []⟩ : StyleShape).Fits ("td", gapStyle block) := by
  have split := splitDeclarations_gapStyle block
  have gap : Avoids styleStops (dividerGap block).value :=
    (isContained_dividerGap block _ (by simp)).2
  refine ⟨rfl, ⟨[], by simp, ?_⟩, ?_⟩
  · rw [split]
    rfl
  · rw [split]
    intro declared isDeclared
    obtain rfl := List.mem_singleton.mp isDeclared
    exact ⟨_, rfl, avoids_space.append gap⟩

end Fits

section Read

/-- The names of the attributes in a frame. -/
def frameAttributeNames : List Text :=
  ["width", "cellpadding", "cellspacing", "border", "src", "alt", "height", "href", "style"]

/-- The names of the tags in a frame. -/
def frameTagNames : List Text :=
  ["table", "tr", "td", "img", "a"]

/-- An attribute of a frame is read back if its value does not end it. -/
theorem isPrintable_frame
    {name : Text}
    (isName : name ∈ frameAttributeNames)
    {value : Text}
    (avoids : Avoids attributeStops value) :
    IsPrintable (name, value) := by
  have plain : ∀ name ∈ frameAttributeNames,
      name ≠ [] ∧ (∀ char ∈ name, isAttributeNameChar char = true) ∧ lower name = name := by
    decide +kernel
  obtain ⟨hasName, nameChars, isLower⟩ := plain name isName
  exact ⟨hasName, nameChars, isLower, avoids.of_subset (by decide)⟩

theorem isTagName_frame
    {name : Text}
    (isName : name ∈ frameTagNames) :
    IsTagName name := by
  have plain : ∀ name ∈ frameTagNames,
      (name.head?.map isAsciiLetter).getD false = true ∧
        (∀ char ∈ name, isAsciiAlphanumeric char = true) ∧ lower name = name := by
    decide +kernel
  obtain ⟨letter, alphanumeric, isLower⟩ := plain name isName
  exact ⟨letter, alphanumeric, isLower⟩

theorem printable_opening
    {name : Text}
    (isName : name ∈ frameTagNames)
    {attributes : List Attribute}
    (printable : ∀ entry ∈ attributes, IsPrintable entry) :
    (opening name attributes).Printable :=
  ⟨isTagName_frame isName, printable⟩

theorem printable_closing
    {name : Text}
    (isName : name ∈ frameTagNames) :
    (closing name).Printable :=
  ⟨isTagName_frame isName, by simp [closing]⟩

/-- The styles of printed tags are read back. -/
theorem styledTags_printTags
    {views : List TagView}
    (printable : ∀ view ∈ views, view.Printable) :
    styledTags (printTags views) =
      views.flatMap fun view =>
        (styleValues view.attributes).map fun style => (view.name, style) := by
  have readable : ∀ segment ∈ views.map fun view => Segment.tag view.print, segment.Readable := by
    intro segment member
    obtain ⟨view, isView, rfl⟩ := List.mem_map.mp member
    exact TagView.wellFormed_print (printable view isView)
  have shape : printTags views =
      (views.map fun view => Segment.tag view.print).flatMap Segment.raw := by
    rw [List.flatMap_map]
    rfl
  have readBack : tags (printTags views) = views.map TagView.print := by
    rw [shape, tags_flatMap_raw readable, List.filterMap_map]
    exact congrFun List.filterMap_eq_map views
  rw [styledTags, readBack, List.flatMap_map]
  refine List.flatMap_congr fun view isView => ?_
  have sameView := TagView.view_print (printable view isView)
  have sameAttributes : view.print.attributes = view.attributes :=
    congrArg TagView.attributes sameView
  have sameName : view.print.name = view.name :=
    congrArg TagView.name sameView
  rw [sameAttributes, sameName]

theorem isPrintable_tableAttributes :
    ∀ entry ∈ tableAttributes, IsPrintable entry := by
  have plain : ∀ entry ∈ tableAttributes,
      entry.1 ∈ frameAttributeNames ∧ Avoids attributeStops entry.2 := by
    decide
  exact fun entry isEntry => isPrintable_frame (plain entry isEntry).1 (plain entry isEntry).2

theorem isPrintable_style
    {style : Text}
    (avoids : Avoids attributeStops style) :
    IsPrintable ("style", style) :=
  isPrintable_frame (by decide) avoids

theorem isPrintable_integerEntry
    {name : Text}
    (isName : name ∈ frameAttributeNames)
    (value : Option Int) :
    ∀ entry ∈ integerEntry name value, IsPrintable entry := by
  intro entry isEntry
  obtain ⟨number, _, rfl⟩ := List.mem_map.mp isEntry
  have digits : Avoids styleStops (ofInt number) :=
    avoids_of_isNumeric (IsNumeric.ofInt number)
  exact isPrintable_frame isName (digits.of_subset (by decide))

/-- The tags of a table are read back if those in it are. -/
theorem printable_tableTags
    {attributes : List Attribute}
    (attributesPrintable : ∀ entry ∈ attributes, IsPrintable entry)
    {content : List TagView}
    (printable : ∀ view ∈ content, view.Printable) :
    ∀ view ∈ tableTags attributes content, view.Printable := by
  have table : (opening "table" (tableAttributes ++ attributes)).Printable :=
    printable_opening (by decide)
      (List.forall_mem_append.mpr ⟨isPrintable_tableAttributes, attributesPrintable⟩)
  have ending : ∀ view ∈ [closing "table"], view.Printable :=
    List.forall_mem_singleton.mpr (printable_closing (by decide))
  exact List.forall_mem_cons.mpr ⟨table, List.forall_mem_append.mpr ⟨printable, ending⟩⟩

/-- The tags of a row are read back if those in it are. -/
theorem printable_rowTags
    {style : Text}
    (avoids : Avoids attributeStops style)
    {content : List TagView}
    (printable : ∀ view ∈ content, view.Printable) :
    ∀ view ∈ rowTags style content, view.Printable := by
  have row : (opening "tr" []).Printable :=
    printable_opening (by decide) (by simp)
  have cell : (opening "td" [("style", style)]).Printable :=
    printable_opening (by decide) (List.forall_mem_singleton.mpr (isPrintable_style avoids))
  have endings : ∀ view ∈ [closing "td", closing "tr"], view.Printable :=
    List.forall_mem_cons.mpr ⟨printable_closing (by decide),
      List.forall_mem_singleton.mpr (printable_closing (by decide))⟩
  exact List.forall_mem_cons.mpr ⟨row, List.forall_mem_cons.mpr
    ⟨cell, List.forall_mem_append.mpr ⟨printable, endings⟩⟩⟩

theorem printable_imageTag
    (block : ImageBlock) :
    (imageTag block).Printable := by
  refine ⟨isTagName_frame (by decide : ("img" : Text) ∈ frameTagNames), ?_⟩
  apply List.forall_mem_cons.mpr ⟨isPrintable_frame (by decide) (by decide), ?_⟩
  apply List.forall_mem_cons.mpr ⟨isPrintable_frame (by decide) (by decide), ?_⟩
  apply List.forall_mem_append.mpr ⟨isPrintable_integerEntry (by decide) _, ?_⟩
  apply List.forall_mem_append.mpr ⟨isPrintable_integerEntry (by decide) _, ?_⟩
  exact List.forall_mem_singleton.mpr
    (isPrintable_style (isContained_imageStyle block).avoids_print)

/-- The tags of a frame are read back. -/
theorem printable_frameTags
    (source : Block) :
    ∀ view ∈ frameTags source, view.Printable := by
  cases source with
  | title source =>
      apply printable_tableTags (by simp)
      exact printable_rowTags (isContained_titleStyle source).avoids_print (by simp)
  | paragraph source =>
      apply printable_tableTags (by simp)
      exact printable_rowTags (isContained_paragraphStyle source).avoids_print (by simp)
  | image source =>
      apply printable_tableTags (by simp)
      apply printable_rowTags (isContained_imageCellStyle source).avoids_print
      exact List.forall_mem_singleton.mpr (printable_imageTag source)
  | button source =>
      have style := isPrintable_style (isContained_buttonStyle source).avoids_print
      have address : IsPrintable ("href", []) :=
        isPrintable_frame (by decide) (by decide)
      apply printable_tableTags (by simp)
      apply printable_rowTags (isContained_buttonCellStyle source).avoids_print
      have link := printable_opening (by decide : ("a" : Text) ∈ frameTagNames)
        (List.forall_mem_cons.mpr ⟨address, List.forall_mem_singleton.mpr style⟩)
      exact List.forall_mem_cons.mpr
        ⟨link, List.forall_mem_singleton.mpr (printable_closing (by decide))⟩
  | divider source =>
      apply printable_tableTags (by simp)
      exact List.forall_mem_append.mpr
        ⟨printable_rowTags (avoids_lineStyle source) (by simp),
          printable_rowTags (avoids_gapStyle source) (by simp)⟩
  | highlightBox source =>
      have style := isPrintable_style (isContained_boxStyle source).avoids_print
      apply printable_tableTags (List.forall_mem_singleton.mpr style)
      exact printable_rowTags (isContained_boxCellStyle source).avoids_print (by simp)

end Read

/-- Of the attributes of an image only one is a style. -/
theorem styleValues_imageTag
    (block : ImageBlock) :
    styleValues (imageTag block).attributes = [(imageStyle block).print] := by
  have noStyle : ∀ name : Text, name ≠ "style" → ∀ value : Option Int,
      (integerEntry name value).filter (fun entry => entry.1 = ("style" : Text)) = [] := by
    intro name different value
    rw [List.filter_eq_nil_iff]
    intro entry isEntry
    obtain ⟨number, _, rfl⟩ := List.mem_map.mp isEntry
    simpa using different
  have width := noStyle "width" (by decide) block.width
  have height := noStyle "height" (by decide) block.height
  calc
    styleValues (imageTag block).attributes
      = styleValues (integerEntry "width" block.width ++
          (integerEntry "height" block.height ++
            ([("style", (imageStyle block).print)] : List Attribute))) := rfl
    _ = styleValues [("style", (imageStyle block).print)] := by
        rw [styleValues, List.filter_append, List.filter_append, width, height]
        rfl
    _ = [(imageStyle block).print] := rfl

/-- The frame of an image has the styles of its cell and of its tag. -/
theorem styles_frameTags_image
    (block : ImageBlock) :
    ((frameTags (.image block)).flatMap fun view =>
        (styleValues view.attributes).map fun style => (view.name, style)) =
      ([("td", (imageCellStyle block).print), ("img", (imageStyle block).print)] :
        List (Text × Text)) := by
  have styles : ((frameTags (.image block)).flatMap fun view =>
      (styleValues view.attributes).map fun style => (view.name, style)) =
        (("td" : Text), (imageCellStyle block).print) ::
          ((styleValues (imageTag block).attributes).map fun style => (("img" : Text), style)) :=
    congrArg (List.cons _) (List.append_nil _)
  rw [styles, styleValues_imageTag]
  rfl

/-- The style of an image rounds its corners or not. -/
theorem fits_imageStyle
    (block : ImageBlock) :
    (⟨"img", ["max-width", "width", "height", "display"], ["border-radius"]⟩ : StyleShape).Fits
      ("img", (imageStyle block).print) := by
  have contained := isContained_imageStyle block
  by_cases rounded : 0 < block.borderRadius.getD 0
  · apply contained.fits (.refl (["border-radius"] : List Text))
    simp only [imageStyle, if_pos rounded]
    rfl
  · apply contained.fits (List.nil_sublist _)
    simp only [imageStyle, if_neg rounded]
    rfl

/-- The style of a box draws a border or not, and a bar on the left besides or not. -/
theorem fits_boxStyle
    (block : HighlightBoxBlock) :
    (⟨"table", ["background-color", "border-radius", "padding-bottom", "margin-top"],
        ["border", "border-left"]⟩ : StyleShape).Fits
      ("table", (boxStyle block).print) := by
  have contained := isContained_boxStyle block
  by_cases drawn : colorOr Color.transparent block.borderColor = Color.transparent
  · apply contained.fits (List.nil_sublist _)
    simp only [boxStyle, drawn, ne_eq, not_true_eq_false, decide_false, Bool.false_and]
    rfl
  · cases barred : block.borderLeft == some true with
    | true =>
        apply contained.fits (.refl (["border", "border-left"] : List Text))
        simp only [boxStyle, drawn, barred, ne_eq, not_false_eq_true, decide_true, Bool.and_self]
        rfl
    | false =>
        have isOptional : (["border"] : List Text).Sublist ["border", "border-left"] := by
          decide
        apply contained.fits isOptional
        simp only [boxStyle, drawn, barred, ne_eq, not_false_eq_true, decide_true, Bool.and_false]
        rfl

/-- The styles of a frame fit the shapes of its type of blocks. -/
theorem fits_frameTags
    (source : Block) :
    List.Forall₂ StyleShape.Fits source.type.styleShapes
      ((frameTags source).flatMap fun view =>
        (styleValues view.attributes).map fun style => (view.name, style)) := by
  cases source with
  | title source =>
      exact .cons ((isContained_titleStyle source).fits (.refl _) rfl) .nil
  | paragraph source =>
      exact .cons ((isContained_paragraphStyle source).fits (.refl _) rfl) .nil
  | image source =>
      rw [styles_frameTags_image]
      exact .cons ((isContained_imageCellStyle source).fits (.refl _) rfl)
        (.cons (fits_imageStyle source) .nil)
  | button source =>
      exact .cons ((isContained_buttonCellStyle source).fits (.refl _) rfl)
        (.cons ((isContained_buttonStyle source).fits (.refl _) rfl) .nil)
  | divider source =>
      exact .cons (fits_lineStyle source) (.cons (fits_gapStyle source) .nil)
  | highlightBox source =>
      exact .cons (fits_boxStyle source)
        (.cons ((isContained_boxCellStyle source).fits (.refl _) rfl) .nil)

/--
A rendered block is its frame with its texts put in. The styles of the frame are those of its
type of blocks, tag by tag: each splits into the properties of the type, and no value holds a
quote, a bracket, a colon or a semicolon, whatever stands in the fields of the block.
-/
theorem ownStyles_fit
    (source : Block) :
    Fills source.shownTexts (block source.withoutTexts) (block source) ∧
      List.Forall₂ StyleShape.Fits source.type.styleShapes
        (styledTags (block source.withoutTexts)) := by
  refine ⟨fills_block source, ?_⟩
  rw [block_withoutTexts, styledTags_printTags (printable_frameTags source)]
  exact fits_frameTags source

end Rendering

end EmailComposer
