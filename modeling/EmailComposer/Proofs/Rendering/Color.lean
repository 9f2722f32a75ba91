import EmailComposer.Proofs.Rendering.Frame
import EmailComposer.Template.Registry
import EmailComposer.Validation.Rule

namespace EmailComposer

/-!
# Colors of a block

The fields of a block that hold colors are checked by a rule of the validator, and shown by the
renderer, which does not know what was found. The two agree all the same: a color that is not
reported stands as it was given in the declarations of its field, and instead of one that is
reported a default does. Only a color that says that nothing is painted is reported and shown
nevertheless.
-/

open EmailComposer.Text
open EmailComposer.Markup

namespace Validation

/-! ## What is reported -/

/-- What is reported about a color of a block. -/
def colorIssue (source : Block) (label color : Text) : Issue :=
  .ofBlock "INVALID_COLOR_FORMAT"
    ("Invalid " ++ label ++ " format: " ++ color ++ ". Use hex format like #FF5733")
    .error source

/-- The rule for colors reports the color of a field. -/
def ReportsColor (context : Context) (source : Block) (label color : Text) : Prop :=
  colorIssue source label color ∈ checkColors context

instance (context : Context) (source : Block) (label color : Text) :
    Decidable (ReportsColor context source label color) :=
  inferInstanceAs (Decidable (colorIssue source label color ∈ checkColors context))

section Reported

variable {source other : Block} {label otherLabel color otherColor : Text}

/-- A color is told by what is reported about it: the first f stands behind the label. -/
theorem color_eq_of_colorIssue_eq
    (apart : 'f' ∉ label)
    (otherApart : 'f' ∉ otherLabel)
    (same : colorIssue source label color = colorIssue other otherLabel otherColor) :
    color = otherColor := by
  have divided : ∀ {label color : Text}, 'f' ∉ label →
      cut 'f' ("Invalid " ++ label ++ " format: " ++ color ++ ". Use hex format like #FF5733") =
        ("Invalid " ++ (label ++ " "),
          some ("ormat: " ++ (color ++ ". Use hex format like #FF5733"))) := by
    intro label color apart
    have noLetter : 'f' ∉ "Invalid " ++ (label ++ " ") := by
      simp [apart]
    have split := cut_append_cons noLetter ("ormat: " ++ (color ++ ". Use hex format like #FF5733"))
    simpa using split
  have sameMessage := congrArg (fun issue => (cut 'f' issue.message).2) same
  simp only [colorIssue, Issue.ofBlock, divided apart, divided otherApart] at sameMessage
  exact List.append_cancel_right (List.append_cancel_left (Option.some.inj sameMessage))

theorem letter_not_mem_label
    {field : Text × Option Text}
    (isField : field ∈ colorFields source) :
    'f' ∉ field.1 := by
  have labels : ∀ label ∈ (colorFields source).map Prod.fst, 'f' ∉ label := by
    have single : ∀ label ∈ (["color"] : List Text), 'f' ∉ label := by
      decide
    cases source with
    | title => exact single
    | paragraph => exact single
    | image => exact List.forall_mem_nil _
    | button =>
        exact (by decide : ∀ label ∈ (["background color", "text color"] : List Text), 'f' ∉ label)
    | divider => exact single
    | highlightBox =>
        exact (by decide : ∀ label ∈ (["background color", "border color"] : List Text),
          'f' ∉ label)
  exact labels field.1 (List.mem_map_of_mem isField)

theorem mem_checkBlockColors_iff
    {issue : Issue} :
    issue ∈ checkBlockColors source ↔
      ∃ label color,
        (label, some color) ∈ colorFields source ∧ isBadColor color = true ∧
          issue = colorIssue source label color := by
  simp only [checkBlockColors, List.mem_flatMap]
  constructor
  · rintro ⟨⟨label, value⟩, isField, found⟩
    cases value with
    | none => cases found
    | some color =>
        simp only [issueIf] at found
        split at found
        · rename_i isBad
          exact ⟨label, color, isField, isBad, List.mem_singleton.mp found⟩
        · cases found
  · rintro ⟨label, color, isField, isBad, rfl⟩
    exact ⟨_, isField, by simp only [issueIf, isBad, if_true, List.mem_singleton, colorIssue]⟩

/-- The color of a field of some block is reported exactly if it is a bad one. -/
theorem reportsColor_iff
    {context : Context}
    (member : source ∈ context.document.blocks)
    (isField : (label, some color) ∈ colorFields source) :
    ReportsColor context source label color ↔ isBadColor color = true := by
  rw [ReportsColor, checkColors, List.mem_flatMap]
  constructor
  · rintro ⟨other, _, found⟩
    obtain ⟨otherLabel, otherColor, isOther, isBad, same⟩ := mem_checkBlockColors_iff.mp found
    have sameColor := color_eq_of_colorIssue_eq (letter_not_mem_label isField)
      (letter_not_mem_label isOther) same
    rwa [sameColor]
  · intro isBad
    exact ⟨source, member, mem_checkBlockColors_iff.mpr ⟨label, color, isField, isBad, rfl⟩⟩

end Reported

end Validation

namespace Rendering

/-! ## What is painted -/

/-- A declaration that colors something: the tag that it stands in, its property, and what
stands behind its colon. -/
structure Painted where
  tagName : Text
  property : Text
  value : Text
  deriving Repr, DecidableEq

/-- The properties that take a color. -/
def colorProperties : List Text :=
  ["color", "background-color", "border", "border-left", "border-bottom"]

/-- The declarations of a style that color something. -/
def paintedBy (tagName style : Text) : List Painted :=
  (splitDeclarations style).filterMap fun declared =>
    if strip declared.1 ∈ colorProperties then
      declared.2.map (Painted.mk tagName (strip declared.1))
    else
      none

/-- The declarations in the styles of a markup that color something, in order. -/
def paintedDeclarations (html : Text) : List Painted :=
  (styledTags html).flatMap fun styled => paintedBy styled.1 styled.2

/-- Where a block shows the color of a field: in declarations of a tag, each with what stands
between its colon and the color. If there is no color to show, a default is shown, if any. -/
structure ColorPlace where
  label : Text
  value : Option Text
  tagName : Text
  openings : List (Text × Text)
  fallback : Option Text

namespace ColorPlace

/-- The declarations of a place with a color in it, if one is shown. -/
def painted (place : ColorPlace) (shown : Option Text) : List Painted :=
  shown.toList.flatMap fun color =>
    place.openings.map fun opening => ⟨place.tagName, opening.1, opening.2 ++ color⟩

/-- What is shown at a place agrees with what the validator says about its field: a color that
is not reported is shown as it is, and instead of one that is the default is shown. -/
structure Agrees
    (context : Validation.Context)
    (source : Block)
    (place : ColorPlace)
    (shown : Option Text) : Prop where
  kept :
    ∀ color ≠ [],
      place.value = some color →
      ¬ Validation.ReportsColor context source place.label color →
      shown = some color
  replaced :
    ∀ color ≠ [],
      place.value = some color →
      Validation.ReportsColor context source place.label color →
      shown = place.fallback ∨ color = Color.transparent ∧ shown = some color
  missing : place.value.getD [] = [] → shown = place.fallback

end ColorPlace

/-- The color of the border of a box, if one is drawn. -/
def shownBorder (borderColor : Option Text) : Option Text :=
  if colorOr Color.transparent borderColor = Color.transparent then
    none
  else
    some (colorOr Color.transparent borderColor)

end Rendering

namespace Block

open Rendering

/-- Where a block shows its colors, field by field. -/
def colorPlaces : Block → List ColorPlace
  | .title block => [⟨"color", block.color, "td", [("color", " ")], some "#1a1a1a"⟩]
  | .paragraph block => [⟨"color", block.color, "td", [("color", " ")], some "#334155"⟩]
  | .image _ => []
  | .button block =>
      [⟨"background color", block.backgroundColor, "a", [("background-color", " ")],
          some "#006950"⟩,
        ⟨"text color", block.textColor, "a", [("color", " ")], some "#ffffff"⟩]
  | .divider block =>
      [⟨"color", block.color, "td",
        [("border-bottom", " " ++ Declaration.pixels (block.height.getD 1) ++ " solid ")],
        some "#e6e9ee"⟩]
  | .highlightBox block =>
      [⟨"background color", some block.backgroundColor, "table", [("background-color", " ")],
          some Color.transparent⟩,
        ⟨"border color", block.borderColor, "table",
          if block.borderLeft = some true then
            [("border", " 1px solid "), ("border-left", " 4px solid ")]
          else
            [("border", " 1px solid ")],
          none⟩]

/-- The declarations that say that nothing is drawn: a button has no border. -/
def unpainted : Block → List Painted
  | .button _ => [⟨"a", "border", " none"⟩]
  | _ => []

/-- The colors that a block is rendered with, place by place. -/
def shownColors : Block → List (Option Text)
  | .title block => [some (colorOr "#1a1a1a" block.color)]
  | .paragraph block => [some (colorOr "#334155" block.color)]
  | .image _ => []
  | .button block =>
      [some (colorOr "#006950" block.backgroundColor), some (colorOr "#ffffff" block.textColor)]
  | .divider block => [some (colorOr "#e6e9ee" block.color)]
  | .highlightBox block => [some (boxBackground block.backgroundColor), shownBorder block.borderColor]

end Block

namespace Rendering

section Painted

variable {style : Style}

/-- The declaration colors something when it is printed. -/
def painted? (tagName : Text) (declaration : Declaration) : Option Painted :=
  if strip declaration.property ∈ colorProperties then
    some ⟨tagName, strip declaration.property, ' ' :: declaration.value⟩
  else
    none

theorem IsContained.paintedBy_print
    (contained : IsContained style)
    (tagName : Text) :
    paintedBy tagName style.print = style.filterMap (painted? tagName) := by
  rw [paintedBy, contained.splitDeclarations_print, List.filterMap_map]
  rfl

theorem paintedBy_imageStyle
    (block : ImageBlock) :
    paintedBy "img" (imageStyle block).print = [] := by
  rw [(isContained_imageStyle block).paintedBy_print]
  by_cases rounded : 0 < block.borderRadius.getD 0
  · simp only [imageStyle, if_pos rounded]
    rfl
  · simp only [imageStyle, if_neg rounded]
    rfl

theorem paintedBy_boxStyle
    (block : HighlightBoxBlock) :
    paintedBy "table" (boxStyle block).print =
      (List.zipWith ColorPlace.painted (Block.highlightBox block).colorPlaces
        (Block.highlightBox block).shownColors).flatten := by
  rw [(isContained_boxStyle block).paintedBy_print]
  by_cases drawn : colorOr Color.transparent block.borderColor = Color.transparent
  · simp only [Block.shownColors, shownBorder, boxStyle, drawn, ne_eq, not_true_eq_false,
      decide_false, Bool.false_and, if_true]
    rfl
  · by_cases barred : block.borderLeft = some true
    · simp only [Block.shownColors, shownBorder, Block.colorPlaces, boxStyle, drawn, barred,
        ne_eq, not_false_eq_true, decide_true, if_true, if_false, beq_self_eq_true, Bool.and_self]
      rfl
    · have noBar : (block.borderLeft == some true) = false :=
        beq_eq_false_iff_ne.mpr barred
      simp only [Block.shownColors, shownBorder, Block.colorPlaces, boxStyle, drawn, barred,
        noBar, ne_eq, not_false_eq_true, decide_true, if_false, Bool.and_false]
      rfl

/-- The cell of a divider colors its line. -/
theorem paintedBy_lineStyle
    (block : DividerBlock) :
    paintedBy "td" (lineStyle block) =
      (List.zipWith ColorPlace.painted (Block.divider block).colorPlaces
        (Block.divider block).shownColors).flatten := by
  have regroup : ∀ width color : Text,
      ' ' :: (width ++ (" solid " ++ color)) = (" " ++ width ++ " solid " : Text) ++ color := by
    intro width color
    simp
  rw [paintedBy, splitDeclarations_lineStyle]
  exact congrArg (fun value => [Painted.mk "td" "border-bottom" value]) (regroup _ _)

theorem paintedBy_gapStyle
    (block : DividerBlock) :
    paintedBy "td" (gapStyle block) = [] := by
  rw [paintedBy, splitDeclarations_gapStyle]
  rfl

/-- The styles in the frame of a block, each with the name of its tag. -/
def frameStyles : Block → List (Text × Text)
  | .title block => [("td", (titleStyle block).print)]
  | .paragraph block => [("td", (paragraphStyle block).print)]
  | .image block => [("td", (imageCellStyle block).print), ("img", (imageStyle block).print)]
  | .button block => [("td", (buttonCellStyle block).print), ("a", (buttonStyle block).print)]
  | .divider block => [("td", lineStyle block), ("td", gapStyle block)]
  | .highlightBox block =>
      [("table", (boxStyle block).print), ("td", (boxCellStyle block).print)]

theorem styledTags_frame
    (source : Block) :
    styledTags (block source.withoutTexts) = frameStyles source := by
  rw [block_withoutTexts, styledTags_printTags (printable_frameTags source)]
  cases source with
  | image source => exact styles_frameTags_image source
  | _ => rfl

/-- What the frame of a block declares to be painted are the colors of its places. -/
theorem paintedDeclarations_frame
    (source : Block) :
    paintedDeclarations (block source.withoutTexts) =
      (List.zipWith ColorPlace.painted source.colorPlaces source.shownColors).flatten ++
        source.unpainted := by
  rw [paintedDeclarations, styledTags_frame]
  cases source with
  | title source =>
      rw [frameStyles, List.flatMap_singleton, (isContained_titleStyle source).paintedBy_print]
      rfl
  | paragraph source =>
      rw [frameStyles, List.flatMap_singleton, (isContained_paragraphStyle source).paintedBy_print]
      rfl
  | image source =>
      rw [frameStyles, List.flatMap_cons, List.flatMap_singleton, paintedBy_imageStyle,
        (isContained_imageCellStyle source).paintedBy_print]
      rfl
  | button source =>
      rw [frameStyles, List.flatMap_cons, List.flatMap_singleton,
        (isContained_buttonCellStyle source).paintedBy_print,
        (isContained_buttonStyle source).paintedBy_print]
      rfl
  | divider source =>
      rw [frameStyles, List.flatMap_cons, List.flatMap_singleton, paintedBy_lineStyle,
        paintedBy_gapStyle]
      rfl
  | highlightBox source =>
      rw [frameStyles, List.flatMap_cons, List.flatMap_singleton, paintedBy_boxStyle,
        (isContained_boxCellStyle source).paintedBy_print]
      rfl

end Painted

/-! ## Agreement -/

section Agreement

variable {default color : Text}

theorem colorOr_of_isHexLine
    (isHex : Color.isHexLine color = true) :
    colorOr default (some color) = color := by
  simp [colorOr, isStyleColor, isHex]

theorem colorOr_of_not_isHexLine
    (noHex : Color.isHexLine color = false) :
    colorOr default (some color) = default ∨
      color = Color.transparent ∧ colorOr default (some color) = color := by
  by_cases isTransparent : color = Color.transparent
  · exact .inr ⟨isTransparent, by simp [colorOr, isStyleColor, isTransparent]⟩
  · exact .inl (by simp [colorOr, isStyleColor, noHex, isTransparent])

variable {context : Validation.Context} {source : Block} {place : ColorPlace}
  {shown : Option Text}
  (member : source ∈ context.document.blocks)
  (isField : (place.label, place.value) ∈ Validation.colorFields source)

include member isField

/-- What is shown agrees with what is reported if hexadecimal colors are shown, and others are
replaced. -/
theorem ColorPlace.agrees_of
    (kept :
      ∀ color, place.value = some color → Color.isHexLine color = true → shown = some color)
    (replaced :
      ∀ color,
        place.value = some color →
        Color.isHexLine color = false →
        shown = place.fallback ∨ color = Color.transparent ∧ shown = some color)
    (missing : place.value = none → shown = place.fallback) :
    place.Agrees context source shown := by
  have reported : ∀ color ≠ [],
      place.value = some color →
      (Validation.ReportsColor context source place.label color ↔
        Color.isHexLine color = false) := by
    intro color notEmpty isValue
    rw [isValue] at isField
    simp [Validation.reportsColor_iff member isField, Validation.isBadColor, notEmpty]
  constructor
  · intro color notEmpty isValue notReported
    rw [reported color notEmpty isValue, Bool.not_eq_false] at notReported
    exact kept color isValue notReported
  · intro color notEmpty isValue isReported
    exact replaced color isValue ((reported color notEmpty isValue).mp isReported)
  · intro isEmpty
    cases isValue : place.value with
    | none => exact missing isValue
    | some color =>
        obtain rfl : color = [] := by
          simpa [isValue] using isEmpty
        rcases replaced [] isValue (by decide) with isFallback | ⟨isTransparent, _⟩
        · exact isFallback
        · exact absurd isTransparent (by decide)

/-- A color or its default agrees with what is reported. -/
theorem ColorPlace.agrees_colorOr
    (isFallback : place.fallback = some default) :
    place.Agrees context source (some (colorOr default place.value)) := by
  refine agrees_of member isField ?_ ?_ ?_
  · intro color isValue isHex
    rw [isValue, colorOr_of_isHexLine isHex]
  · intro color isValue noHex
    rw [isValue, isFallback]
    exact (colorOr_of_not_isHexLine noHex).imp (congrArg some) (And.imp_right (congrArg some))
  · intro isValue
    rw [isValue, isFallback]
    rfl

/-- So does the background of a box, which is not painted instead. -/
theorem ColorPlace.agrees_boxBackground
    {background : Text}
    (isBackground : place.value = some background)
    (isFallback : place.fallback = some Color.transparent) :
    place.Agrees context source (some (boxBackground background)) := by
  refine agrees_of member isField ?_ ?_ ?_
  · intro color isValue isHex
    obtain rfl := Option.some.inj (isBackground.symm.trans isValue)
    simp [boxBackground, isHex]
  · intro color isValue noHex
    obtain rfl := Option.some.inj (isBackground.symm.trans isValue)
    exact .inl (by simp [boxBackground, noHex, isFallback])
  · intro isValue
    cases isBackground.symm.trans isValue

/-- And so does its border, which is not drawn instead. -/
theorem ColorPlace.agrees_shownBorder
    (isFallback : place.fallback = none) :
    place.Agrees context source (shownBorder place.value) := by
  refine agrees_of member isField ?_ ?_ ?_
  · intro color isValue isHex
    have isDrawn : color ≠ Color.transparent := by
      rintro rfl
      exact absurd isHex (by decide)
    rw [shownBorder, isValue, colorOr_of_isHexLine isHex, if_neg isDrawn]
  · intro color isValue noHex
    have notDrawn : colorOr Color.transparent (some color) = Color.transparent := by
      rcases colorOr_of_not_isHexLine noHex with isDefault | ⟨isTransparent, isShown⟩
      · exact isDefault
      · exact isShown.trans isTransparent
    rw [shownBorder, isValue, if_pos notDrawn, isFallback]
    exact .inl rfl
  · intro isValue
    rw [shownBorder, isValue, isFallback]
    rfl

end Agreement

section Places

variable {context : Validation.Context} {source : Block}

/-- Every field with a color has its place. -/
theorem colorPlaces_fields
    (source : Block) :
    source.colorPlaces.map (fun place => (place.label, place.value)) =
      Validation.colorFields source := by
  cases source <;> rfl

variable (member : source ∈ context.document.blocks)

include member

/-- What a block is rendered with agrees with what is reported, place by place. -/
theorem agrees_shownColors :
    List.Forall₂ (ColorPlace.Agrees context source) source.colorPlaces source.shownColors := by
  have isField : ∀ place ∈ source.colorPlaces,
      (place.label, place.value) ∈ Validation.colorFields source := by
    intro place isPlace
    rw [← colorPlaces_fields]
    exact List.mem_map_of_mem isPlace
  have agrees : ∀ {place : ColorPlace} {default : Text},
      place ∈ source.colorPlaces →
      place.fallback = some default →
      place.Agrees context source (some (colorOr default place.value)) :=
    fun isPlace => ColorPlace.agrees_colorOr member (isField _ isPlace)
  cases source with
  | title => exact .cons (agrees (List.mem_singleton_self _) rfl) .nil
  | paragraph => exact .cons (agrees (List.mem_singleton_self _) rfl) .nil
  | image => exact .nil
  | button =>
      exact .cons (agrees (List.mem_cons_self ..) rfl)
        (.cons (agrees (List.mem_cons_of_mem _ (List.mem_singleton_self _)) rfl) .nil)
  | divider => exact .cons (agrees (List.mem_singleton_self _) rfl) .nil
  | highlightBox =>
      have isBackground := isField _ (List.mem_cons_self ..)
      have isBorder := isField _ (List.mem_cons_of_mem _ (List.mem_singleton_self _))
      exact .cons (ColorPlace.agrees_boxBackground member isBackground rfl rfl)
        (.cons (ColorPlace.agrees_shownBorder member isBorder rfl) .nil)

end Places

/--
Each field of a block that the rule for colors looks at has its place in the rendered block.
The frame of the block declares colors at these places and nowhere else, and what it declares
agrees with the rule: a color that is not reported stands there as it is, and instead of one
that is reported stands the default of the place, unless it says that nothing is painted.
-/
theorem paintedColors_agree
    {context : Validation.Context}
    {source : Block}
    (member : source ∈ context.document.blocks) :
    source.colorPlaces.map (fun place => (place.label, place.value)) =
        Validation.colorFields source ∧
      Fills source.shownTexts (block source.withoutTexts) (block source) ∧
      ∃ colors : List (Option Text),
        List.Forall₂ (ColorPlace.Agrees context source) source.colorPlaces colors ∧
          paintedDeclarations (block source.withoutTexts) =
            (List.zipWith ColorPlace.painted source.colorPlaces colors).flatten ++
              source.unpainted :=
  ⟨colorPlaces_fields source, fills_block source, source.shownColors,
    agrees_shownColors member, paintedDeclarations_frame source⟩

/-- A button with a background that is reported, and a color of its label that is not. -/
def loudButton : ButtonBlock :=
  ⟨"1", "Go", "https://x/", some "red", some "#FFF", none, none, none, none, none⟩

/-- An email with this button only, and the rules for it. -/
def loudEmail : Validation.Context where
  rules := Template.newsletter
  document := ⟨"1", .newsletter, 1, [.button loudButton], ⟨[], none, false⟩, none, none,
    ⟨[], [], [], []⟩, none, none, []⟩
  strict := false

/-- The button is painted in the default color, with its label in its own color. -/
theorem paintedColors_loudButton :
    Block.button loudButton ∈ loudEmail.document.blocks ∧
      paintedDeclarations (block (Block.button loudButton).withoutTexts) =
        [⟨"a", "background-color", " #006950"⟩, ⟨"a", "color", " #FFF"⟩,
          ⟨"a", "border", " none"⟩] := by
  have member : Block.button loudButton ∈ loudEmail.document.blocks :=
    List.mem_singleton_self _
  obtain ⟨_, _, colors, agrees, painted⟩ := paintedColors_agree member
  obtain _ | ⟨background, label⟩ := agrees
  obtain _ | ⟨label, nothing⟩ := label
  cases nothing
  have isLabel := label.kept "#FFF" (by decide) rfl (by decide)
  rcases background.replaced "red" (by decide) rfl (by decide) with isDefault | ⟨isNothing, _⟩
  · rw [painted, isLabel, isDefault]
    exact ⟨member, rfl⟩
  · exact absurd isNothing (by decide)

end Rendering

end EmailComposer
