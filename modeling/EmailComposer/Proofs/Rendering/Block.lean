import EmailComposer.Block.Sanitize
import EmailComposer.Proofs.Content.Policy
import EmailComposer.Proofs.Rendering.Style
import EmailComposer.Proofs.Token.Expand

namespace EmailComposer.Rendering

/-!
# Rendered blocks keep to the elements of emails

What a block adds to its content are a table with one cell, an image or a link. Colors,
lengths and numbers in their styles hold no bracket, and neither do escaped texts. So
every opening bracket of a rendered block begins a tag of an element of emails.
-/

open EmailComposer.Text
open EmailComposer.Markup

/-- A contained style is printed without brackets. -/
theorem IsContained.bracket_not_mem_print
    {style : Style}
    (contained : IsContained style) :
    '<' ∉ style.print :=
  fun member => contained.avoids_print '<' member (by decide)

theorem bracket_not_mem_of_isNumeric
    {text : Text}
    (numeric : IsNumeric text) :
    '<' ∉ text := by
  intro member
  exact absurd (numeric '<' member) (by decide)

@[simp]
theorem bracket_not_mem_escapedAddress
    (address : Text) :
    '<' ∉ escapeWith specTable address :=
  fun member => mem_escapeWith_specTable member (by simp)

/-! ## Blocks -/

theorem onlyElements_cellTable
    {table : Text}
    {cell : Style}
    {content : Text}
    (onlyTable : OnlyElements table)
    (containedCell : IsContained cell)
    (onlyContent : OnlyElements content) :
    OnlyElements (cellTable table cell content) := by
  have start : OnlyElements (table ++ "<tr><td style=\"" ++ cell.print ++ "\">") := by
    refine OnlyElements.append_plain (OnlyElements.append_plain
      (onlyElements_append onlyTable ?_) containedCell.bracket_not_mem_print) ?_ <;> decide
  exact onlyElements_append (onlyElements_append start onlyContent) (by decide)

theorem onlyElements_tableTag : OnlyElements tableTag := by
  decide +kernel

theorem onlyElements_styledTableTag
    {style : Style}
    (plain : IsContained style) :
    OnlyElements (styledTableTag style) := by
  have start : OnlyElements (tableStart ++ " style=\"") := by
    decide +kernel
  exact (start.append_plain plain.bracket_not_mem_print).append_plain (by decide)

/-- An integer attribute holds no bracket if its name does not. -/
@[simp]
theorem bracket_not_mem_integerAttribute
    {name : Text}
    (plain : '<' ∉ name)
    (value : Option Int) :
    '<' ∉ integerAttribute name value := by
  cases value with
  | none => simp [integerAttribute]
  | some value =>
      have plainValue := bracket_not_mem_of_isNumeric (IsNumeric.ofInt value)
      simp [integerAttribute, plain, plainValue]

theorem onlyElements_title
    {block : TitleBlock}
    (only : OnlyElements block.content) :
    OnlyElements (title block) :=
  onlyElements_cellTable onlyElements_tableTag (isContained_titleStyle block)
    (Token.onlyElements_format only)

theorem onlyElements_paragraph
    {block : ParagraphBlock}
    (only : OnlyElements block.content) :
    OnlyElements (paragraph block) :=
  onlyElements_cellTable onlyElements_tableTag (isContained_paragraphStyle block)
    (Token.onlyElements_format only)

theorem onlyElements_image
    {block : ImageBlock}
    (plain : '<' ∉ block.alt) :
    OnlyElements (image block) := by
  have plainStyle := (isContained_imageStyle block).bracket_not_mem_print
  refine onlyElements_cellTable onlyElements_tableTag (isContained_imageCellStyle block) ?_
  simp only [List.append_assoc]
  refine onlyElements_append (by decide) (onlyElements_of_noBracket ?_)
  simp [plain, plainStyle]

theorem onlyElements_button
    {block : ButtonBlock}
    (plain : '<' ∉ block.label) :
    OnlyElements (button block) := by
  have plainStyle := (isContained_buttonStyle block).bracket_not_mem_print
  have plainAddress := bracket_not_mem_escapedAddress block.href
  have start : OnlyElements ("<a href=\"" : Text) := by
    decide
  refine onlyElements_cellTable onlyElements_tableTag (isContained_buttonCellStyle block) ?_
  exact onlyElements_append (start.append_plain plainAddress |>.append_plain (by decide)
    |>.append_plain plainStyle |>.append_plain (by decide) |>.append_plain plain) (by decide)

theorem onlyElements_divider
    (block : DividerBlock) :
    OnlyElements (divider block) := by
  have line : '<' ∉ lineStyle block :=
    fun member => avoids_lineStyle block '<' member (by decide)
  have gap : '<' ∉ gapStyle block :=
    fun member => avoids_gapStyle block '<' member (by decide)
  rw [divider_eq]
  apply onlyElements_append onlyElements_tableTag
  apply onlyElements_append (by decide)
  apply onlyElements_append (onlyElements_of_noBracket line)
  apply onlyElements_append (by decide +kernel)
  exact onlyElements_append (onlyElements_of_noBracket gap) (by decide +kernel)

theorem onlyElements_highlightBox
    {block : HighlightBoxBlock}
    (only : OnlyElements block.content) :
    OnlyElements (highlightBox block) :=
  onlyElements_cellTable (onlyElements_styledTableTag (isContained_boxStyle block))
    (isContained_boxCellStyle block) only

/-! ## Sanitized blocks -/

theorem mem_elementNames_of_mem_inlineTags :
    ∀ name ∈ ContentPolicy.inlineTags, name ∈ elementNames := by
  decide

/-- Sanitized text has only elements, with their bodies in normal form. -/
theorem onlyElements_sanitizeText
    (type : BlockType)
    (text : Text) :
    OnlyElements (type.sanitizeText text) := by
  have isInline := type.isInline_policy
  refine onlyElements_of_tags (fun member => ?_) fun element isTag => ?_
  · have noBracket := ContentPolicy.isNoBracket_contents_sanitize isInline text '<' member
    exact absurd noBracket (by decide)
  · rw [BlockType.sanitizeText, ContentPolicy.tags_sanitize isInline] at isTag
    obtain ⟨source, member, rfl⟩ := List.mem_map.mp isTag
    have survives := (List.mem_filter.mp member).2
    have isInlineTag := (ContentPolicy.mem_allowedTags_of_survives isInline survives).2
    exact ⟨mem_elementNames_of_mem_inlineTags _ isInlineTag, TagView.body_eq_nil_or_cons _⟩

theorem bracket_not_mem_plainField
    (text : Text) :
    '<' ∉ plainField text :=
  fun member => mem_escape member (by simp)

/-- A block with sanitized text is rendered with elements of emails only, whatever stands in
its other fields. -/
theorem onlyElements_sanitizeContent
    (source : Block) :
    OnlyElements (block source.sanitizeContent) := by
  cases source with
  | title block => exact onlyElements_title (onlyElements_sanitizeText .title _)
  | paragraph block => exact onlyElements_paragraph (onlyElements_sanitizeText .paragraph _)
  | image block => exact onlyElements_image (bracket_not_mem_plainField _)
  | button block => exact onlyElements_button (bracket_not_mem_plainField _)
  | divider block => exact onlyElements_divider block
  | highlightBox block =>
      exact onlyElements_highlightBox (onlyElements_sanitizeText .highlightBox _)

end EmailComposer.Rendering
