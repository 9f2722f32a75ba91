import EmailComposer.Proofs.Number.Decimal
import EmailComposer.Proofs.Token.Tree
import EmailComposer.Rendering.Block

namespace EmailComposer.Rendering

/-!
# Styles that hold what they should

What a block says about colors, lengths, alignments and numbers becomes the value of a
declaration. Whatever it says, no character gets into the value that could end it, its
declaration or the attribute around it. So a printed style is split into the
declarations that it was printed from.
-/

open EmailComposer.Text

/-- The characters that could end a value, its declaration or the attribute around it. -/
def styleStops : Text :=
  ['"', '\x27', '<', '>', ':', ';']

/-- No such character stands in any declaration. -/
def IsContained (style : Style) : Prop :=
  ∀ declaration ∈ style,
    Avoids styleStops declaration.property ∧ Avoids styleStops declaration.value

instance (style : Style) : Decidable (IsContained style) :=
  inferInstanceAs (Decidable (∀ declaration ∈ style,
    Avoids styleStops declaration.property ∧ Avoids styleStops declaration.value))

theorem IsContained.cons
    {property value : Text}
    {rest : Style}
    (propertyAvoids : Avoids styleStops property)
    (valueAvoids : Avoids styleStops value)
    (contained : IsContained rest) :
    IsContained (⟨property, value⟩ :: rest) :=
  List.forall_mem_cons.mpr ⟨⟨propertyAvoids, valueAvoids⟩, contained⟩

theorem IsContained.append
    {first second : Style}
    (containedFirst : IsContained first)
    (containedSecond : IsContained second) :
    IsContained (first ++ second) :=
  List.forall_mem_append.mpr ⟨containedFirst, containedSecond⟩

/-! ## Values -/

theorem avoids_of_isNumeric
    {text : Text}
    (numeric : IsNumeric text) :
    Avoids styleStops text :=
  Avoids.of_class numeric (by decide)

theorem avoids_pixels
    (value : Int) :
    Avoids styleStops (Declaration.pixels value) := by
  apply avoids_of_isNumeric
  exact (IsNumeric.ofInt value).append (by decide)

theorem avoids_of_isHexLine
    {color : Text}
    (isColor : Color.isHexLine color = true) :
    Avoids styleStops color := by
  have apart : ∀ char ∈ styleStops, char ≠ '#' ∧ isHexDigit char = false := by
    decide
  rw [Color.isHexLine, Bool.or_eq_true, Bool.and_eq_true] at isColor
  rcases isColor with isHex | ⟨isLine, isHex⟩
  · exact Token.avoids_of_isHex isHex apart
  · obtain ⟨before, rfl⟩ := List.getLast?_eq_some_iff.mp (beq_iff_eq.mp isLine)
    rw [List.dropLast_concat] at isHex
    exact (Token.avoids_of_isHex isHex apart).append (by decide)

theorem avoids_colorOr
    {default : Text}
    (avoids : Avoids styleStops default)
    (color : Option Text) :
    Avoids styleStops (colorOr default color) := by
  cases color with
  | none => exact avoids
  | some color =>
      rw [colorOr]
      split
      · rename_i isColor
        rw [isStyleColor, Bool.or_eq_true, decide_eq_true_eq] at isColor
        rcases isColor with isHex | rfl
        · exact avoids_of_isHexLine isHex
        · decide
      · exact avoids

theorem avoids_boxBackground
    (color : Text) :
    Avoids styleStops (boxBackground color) := by
  unfold boxBackground
  split
  · rename_i isHex
    exact avoids_of_isHexLine isHex
  · decide

/-- The digits in front of a text bring no such character with them, in whatever script they
are written. -/
theorem avoids_of_dropWhile_digits
    {text : Text}
    (avoids : Avoids styleStops (text.dropWhile isDecimalDigit)) :
    Avoids styleStops text := by
  have digits : Avoids styleStops (text.takeWhile isDecimalDigit) :=
    Avoids.of_class (fun _ => List.mem_takeWhile_imp) (by decide +kernel)
  rw [← List.takeWhile_append_dropWhile (l := text) (p := isDecimalDigit)]
  exact digits.append avoids

/-- Neither does a fraction. -/
theorem avoids_of_dropFraction
    {text : Text}
    (avoids : Avoids styleStops (dropFraction text)) :
    Avoids styleStops text := by
  unfold dropFraction at avoids
  split at avoids
  · rename_i first rest
    split at avoids
    · rename_i isDigit
      have point : Avoids styleStops ['.'] := by
        decide
      have fraction : Avoids styleStops (first :: rest) := by
        apply avoids_of_dropWhile_digits
        rw [List.dropWhile_cons_of_pos isDigit]
        exact avoids
      exact point.append fraction
    · exact avoids
  · exact avoids

theorem avoids_of_isLength
    {text : Text}
    (length : isLength text = true) :
    Avoids styleStops text := by
  unfold isLength at length
  split at length
  · rw [Bool.and_eq_true, decide_eq_true_eq] at length
    have units : ∀ unit ∈ lengthUnits, Avoids styleStops unit := by
      decide
    apply avoids_of_dropWhile_digits
    apply avoids_of_dropFraction
    exact units _ length.2
  · cases length

theorem avoids_paddingOr
    {default : Text}
    (avoids : Avoids styleStops default)
    (padding : Option Text) :
    Avoids styleStops (paddingOr default padding) := by
  cases padding with
  | none => exact avoids
  | some padding =>
      rw [paddingOr]
      split
      · rename_i lengths
        rw [isPadding, Bool.and_eq_true, List.all_eq_true] at lengths
        intro char member isStop
        have notSpace : char ≠ ' ' := by
          rintro rfl
          exact absurd isStop (by decide)
        obtain ⟨field, isField, inField⟩ := exists_mem_fields notSpace member
        exact avoids_of_isLength (lengths.2 field isField) char inField isStop
      · exact avoids

theorem avoids_lineHeight
    (height : Option Binary64) :
    Avoids styleStops (lineHeight height) := by
  cases height with
  | none => decide
  | some height => exact avoids_of_isNumeric height.isNumeric_styleText

theorem avoids_fontSize
    (level : HeadingLevel) :
    Avoids styleStops (fontSize level) := by
  cases level <;> decide

theorem avoids_alignment
    (align : TextAlign) :
    Avoids styleStops align.name := by
  cases align <;> decide

/-! ## Styles of blocks -/

theorem isContained_titleStyle
    (block : TitleBlock) :
    IsContained (titleStyle block) := by
  apply IsContained.cons (by decide) (avoids_fontSize _)
  apply IsContained.cons (by decide) (by decide)
  apply IsContained.cons (by decide) (avoids_colorOr (by decide) _)
  apply IsContained.cons (by decide) (avoids_pixels _)
  decide

theorem isContained_paragraphStyle
    (block : ParagraphBlock) :
    IsContained (paragraphStyle block) := by
  apply IsContained.cons (by decide) (avoids_colorOr (by decide) _)
  apply IsContained.cons (by decide) (avoids_lineHeight _)
  apply IsContained.cons (by decide) (avoids_pixels _)
  apply IsContained.cons (by decide) (by decide)
  apply IsContained.cons (by decide) (avoids_alignment _)
  decide

theorem isContained_imageStyle
    (block : ImageBlock) :
    IsContained (imageStyle block) := by
  apply IsContained.append
  · apply IsContained.cons (by decide) (avoids_pixels _)
    decide
  · split
    · apply IsContained.cons (by decide) (avoids_pixels _)
      decide
    · decide

theorem isContained_imageCellStyle
    (block : ImageBlock) :
    IsContained (imageCellStyle block) := by
  apply IsContained.cons (by decide) (avoids_pixels _)
  decide

theorem isContained_buttonStyle
    (block : ButtonBlock) :
    IsContained (buttonStyle block) := by
  apply IsContained.cons (by decide) (avoids_colorOr (by decide) _)
  apply IsContained.cons (by decide) (avoids_colorOr (by decide) _)
  apply IsContained.cons (by decide) (avoids_paddingOr (by decide) _)
  apply IsContained.cons (by decide) (by decide)
  apply IsContained.cons (by decide) (avoids_pixels _)
  decide

theorem isContained_buttonCellStyle
    (block : ButtonBlock) :
    IsContained (buttonCellStyle block) := by
  apply IsContained.cons (by decide) (avoids_pixels _)
  apply IsContained.cons (by decide) (avoids_pixels _)
  apply IsContained.cons (by decide) (avoids_alignment _)
  decide

theorem isContained_boxStyle
    (block : HighlightBoxBlock) :
    IsContained (boxStyle block) := by
  have color : ∀ width : Text, Avoids styleStops width →
      Avoids styleStops (width ++ colorOr Color.transparent block.borderColor) :=
    fun width avoids => avoids.append (avoids_colorOr (by decide) block.borderColor)
  apply IsContained.append
  · apply IsContained.append
    · apply IsContained.cons (by decide) (avoids_boxBackground _)
      apply IsContained.cons (by decide) (avoids_pixels _)
      apply IsContained.cons (by decide) (avoids_pixels _)
      decide
    · split
      · exact IsContained.cons (by decide) (color _ (by decide)) (by decide)
      · decide
  · split
    · exact IsContained.cons (by decide) (color _ (by decide)) (by decide)
    · decide

theorem isContained_boxCellStyle
    (block : HighlightBoxBlock) :
    IsContained (boxCellStyle block) := by
  apply IsContained.cons (by decide) (avoids_paddingOr (by decide) _)
  decide

/-- What the line of a divider declares first. -/
def dividerLine (block : DividerBlock) : Declaration :=
  ⟨"border-bottom",
    Declaration.pixels (block.height.getD 1) ++ (" solid " ++ colorOr "#e6e9ee" block.color)⟩

/-- The style of the line of a divider, which ends with a semicolon. -/
def lineStyle (block : DividerBlock) : Text :=
  joinWith ";" [(dividerLine block).print, " height: 0", []]

/-- The height of the gap below the line. -/
def dividerGap (block : DividerBlock) : Declaration :=
  ⟨"height", Declaration.pixels (block.margin.getD 16)⟩

/-- The style of the gap below the line, which ends with a semicolon. -/
def gapStyle (block : DividerBlock) : Text :=
  joinWith ";" [(dividerGap block).print, []]

theorem isContained_dividerLine
    (block : DividerBlock) :
    IsContained [dividerLine block] := by
  have color : Avoids styleStops (colorOr "#e6e9ee" block.color) :=
    avoids_colorOr (by decide) _
  have line : Avoids styleStops (dividerLine block).value :=
    (avoids_pixels _).append (Avoids.append (by decide) color)
  exact IsContained.cons (by decide) line (by decide)

theorem isContained_dividerGap
    (block : DividerBlock) :
    IsContained [dividerGap block] :=
  IsContained.cons (by decide) (avoids_pixels _) (by decide)

/-! ## Printed styles -/

/-- A printed declaration adds a colon and a space to what it is made of. -/
theorem IsContained.avoids_declaration
    {style : Style}
    (contained : IsContained style)
    {excluded : Text}
    (included : excluded ⊆ styleStops)
    (colon : Avoids excluded ": ")
    {declaration : Declaration}
    (member : declaration ∈ style) :
    Avoids excluded declaration.print := by
  obtain ⟨property, value⟩ := contained declaration member
  exact ((property.of_subset included).append colon).append (value.of_subset included)

/-- The characters that could end an attribute, or open a tag within it. -/
def attributeStops : Text :=
  ['"', '\x27', '<', '>']

/-- Neither does the semicolon between joined texts. -/
theorem avoids_joinWith
    {pieces : List Text}
    (avoids : ∀ piece ∈ pieces, Avoids attributeStops piece) :
    Avoids attributeStops (joinWith ";" pieces) := by
  intro char member isStop
  rcases mem_joinWith member with inSeparator | ⟨piece, isPiece, inPiece⟩
  · obtain rfl := List.mem_singleton.mp inSeparator
    exact absurd isStop (by decide)
  · exact avoids piece isPiece char inPiece isStop

/-- No character of a printed style ends the attribute. -/
theorem IsContained.avoids_print
    {style : Style}
    (contained : IsContained style) :
    Avoids attributeStops style.print := by
  apply avoids_joinWith
  intro piece isPiece
  obtain ⟨declaration, isDeclaration, rfl⟩ := List.mem_map.mp isPiece
  exact contained.avoids_declaration (by decide) (by decide) isDeclaration

/-- The same holds of a contained declaration in front of other pieces. -/
theorem avoids_joinWith_print
    {declaration : Declaration}
    (contained : IsContained [declaration])
    {others : List Text}
    (avoids : ∀ piece ∈ others, Avoids attributeStops piece) :
    Avoids attributeStops (joinWith ";" (declaration.print :: others)) := by
  have first : Avoids attributeStops declaration.print :=
    contained.avoids_declaration (by decide) (by decide) (by simp)
  exact avoids_joinWith (List.forall_mem_cons.mpr ⟨first, avoids⟩)

theorem avoids_lineStyle
    (block : DividerBlock) :
    Avoids attributeStops (lineStyle block) :=
  avoids_joinWith_print (isContained_dividerLine block) (by decide)

theorem avoids_gapStyle
    (block : DividerBlock) :
    Avoids attributeStops (gapStyle block) :=
  avoids_joinWith_print (isContained_dividerGap block) (by decide)

theorem lineStyle_eq
    (block : DividerBlock) :
    lineStyle block =
      "border-bottom: " ++ (Declaration.pixels (block.height.getD 1) ++
        (" solid " ++ (colorOr "#e6e9ee" block.color ++ "; height: 0;"))) := by
  have joined : ∀ width color : Text,
      joinWith ";" ["border-bottom" ++ ": " ++ (width ++ (" solid " ++ color)), " height: 0", []] =
        "border-bottom: " ++ (width ++ (" solid " ++ (color ++ "; height: 0;"))) := by
    simp [joinWith, List.intercalate_cons_cons]
  exact joined _ _

theorem gapStyle_eq
    (block : DividerBlock) :
    gapStyle block = "height: " ++ (Declaration.pixels (block.margin.getD 16) ++ ";") := by
  have joined : ∀ size : Text,
      joinWith ";" ["height" ++ ": " ++ size, []] = "height: " ++ (size ++ ";") := by
    simp [joinWith]
  exact joined _

/-- A divider has a cell with a line and a cell with a gap. -/
theorem divider_eq
    (block : DividerBlock) :
    divider block =
      tableTag ++ ("<tr><td style=\"" ++ (lineStyle block ++
        ("\"></td></tr><tr><td style=\"" ++ (gapStyle block ++
          "\"></td></tr></table>")))) := by
  simp only [divider, lineStyle_eq, gapStyle_eq, List.append_assoc]

/-- What stands between the semicolons of a style, if anything, up to its first colon and
behind it. -/
def splitDeclarations (style : Text) : List (Text × Option Text) :=
  ((fields ';' style).filter (· ≠ [])).map (cut ':')

theorem splitDeclarations_joinWith
    {pieces : List Text}
    (apart : ∀ piece ∈ pieces, ';' ∉ piece) :
    splitDeclarations (joinWith ";" pieces) = (pieces.filter (· ≠ [])).map (cut ':') := by
  cases pieces with
  | nil => decide
  | cons first rest =>
      have split : fields ';' (joinWith ";" (first :: rest)) = first :: rest :=
        fields_joinWith (by simp) apart
      rw [splitDeclarations, split]

/-- A contained declaration is printed without semicolons, and divides at its first colon. -/
theorem cut_print
    {declaration : Declaration}
    (property : Avoids styleStops declaration.property) :
    cut ':' declaration.print = (declaration.property, some (' ' :: declaration.value)) := by
  have noColon : ':' ∉ declaration.property :=
    fun member => property ':' member (by decide)
  have shape : declaration.print =
      declaration.property ++ ':' :: (' ' :: declaration.value) := by
    simp [Declaration.print]
  rw [shape]
  exact cut_append_cons noColon _

/-- A contained declaration in front of other pieces is split off. -/
theorem splitDeclarations_cons
    {declaration : Declaration}
    (contained : IsContained [declaration])
    {others : List Text}
    (apart : ∀ piece ∈ others, ';' ∉ piece) :
    splitDeclarations (joinWith ";" (declaration.print :: others)) =
      (declaration.property, some (' ' :: declaration.value)) ::
        splitDeclarations (joinWith ";" others) := by
  have avoids : Avoids [';'] declaration.print :=
    contained.avoids_declaration (by decide) (by decide) (by simp)
  have allApart : ∀ piece ∈ declaration.print :: others, ';' ∉ piece :=
    List.forall_mem_cons.mpr ⟨fun member => avoids ';' member (by simp), apart⟩
  have kept : (declaration.print :: others).filter (· ≠ []) =
      declaration.print :: others.filter (· ≠ []) :=
    List.filter_cons_of_pos (by simp [Declaration.print])
  rw [splitDeclarations_joinWith allApart, splitDeclarations_joinWith apart, kept, List.map_cons,
    cut_print (contained _ (by simp)).1]

/-- A printed style is split into its declarations. -/
theorem IsContained.splitDeclarations_print
    {style : Style}
    (contained : IsContained style) :
    splitDeclarations style.print =
      style.map fun declaration => (declaration.property, some (' ' :: declaration.value)) := by
  induction style with
  | nil => decide
  | cons declaration rest inductionHypothesis =>
      obtain ⟨first, restContained⟩ := List.forall_mem_cons.mp contained
      have apart : ∀ piece ∈ rest.map Declaration.print, ';' ∉ piece := by
        intro piece isPiece member
        obtain ⟨other, isOther, rfl⟩ := List.mem_map.mp isPiece
        have avoids : Avoids [';'] other.print :=
          IsContained.avoids_declaration restContained (by decide) (by decide) isOther
        exact avoids ';' member (by simp)
      have onward := inductionHypothesis restContained
      rw [Style.print, List.map_cons,
        splitDeclarations_cons (List.forall_mem_singleton.mpr first) apart]
      exact congrArg (List.cons _) onward

/-- The style of the line of a divider is split into a border and a height of zero. -/
theorem splitDeclarations_lineStyle
    (block : DividerBlock) :
    splitDeclarations (lineStyle block) =
      ([("border-bottom", some (' ' :: (dividerLine block).value)),
        (" height", some (" 0" : Text))] : List (Text × Option Text)) := by
  have height : splitDeclarations (joinWith ";" [" height: 0", []]) =
      ([(" height", some (" 0" : Text))] : List (Text × Option Text)) := by
    decide
  rw [lineStyle, splitDeclarations_cons (isContained_dividerLine block) (by decide), height]
  rfl

/-- The style of the gap below it is a height. -/
theorem splitDeclarations_gapStyle
    (block : DividerBlock) :
    splitDeclarations (gapStyle block) =
      ([("height", some (' ' :: (dividerGap block).value))] : List (Text × Option Text)) := by
  have nothing : splitDeclarations (joinWith ";" [[]]) = [] := by
    decide
  rw [gapStyle, splitDeclarations_cons (isContained_dividerGap block) (by decide), nothing]
  rfl

end EmailComposer.Rendering
