import Mathlib.Data.List.Nodup
import EmailComposer.Proofs.Text.Scan
import EmailComposer.Validation.Summary

namespace EmailComposer.Validation

/-!
# What the validator accepts

Outside strict mode the validator finds nothing exactly if a document is acceptable, which
is said here without any of the checks. Every rule has its own condition; an issue that is
only a warning puts no condition on the document.
-/

open EmailComposer.Text

/-- A text with something to read in it. -/
def HoldsText (text : Text) : Prop :=
  ∃ char ∈ text, isBlank char = false

/-- A number sign and three or six hexadecimal digits, perhaps with a line break behind. -/
def MatchesHexColor (color : Text) : Prop :=
  ∃ digits : Text,
    (digits.length = 3 ∨ digits.length = 6) ∧
      (∀ digit ∈ digits, isHexDigit digit = true) ∧
        (color = '#' :: digits ∨ color = '#' :: (digits ++ ['\n']))

/-- The block has the content that its type needs. -/
def HasContent : Block → Prop
  | .title title => HoldsText title.content
  | .paragraph paragraph => HoldsText paragraph.content
  | .image image => "https://".toList <+: image.src ∧ HoldsText image.alt
  | .button button =>
      HoldsText button.label ∧
        ("http://".toList <+: button.href ∨ "https://".toList <+: button.href)
  | .divider _ => True
  | .highlightBox box => HoldsText box.content

/-- Every color of the block that is given and not empty is a hexadecimal color. -/
def HasHexColors (block : Block) : Prop :=
  ∀ field ∈ colorFields block, ∀ color ∈ field.2, color ≠ [] → MatchesHexColor color

/-- A document that breaks none of the rules of its template, the order of blocks aside. -/
structure IsAcceptable (rules : TemplateRules) (document : Document) : Prop where
  allowedTypes : ∀ block ∈ document.blocks, block.type ∈ rules.allowedBlockTypes
  counts :
    ∀ entry ∈ rules.blockConstraints,
      (countOf entry.1 document.blocks : Int) ≤ entry.2.maximum ∧
        (entry.2.required = true →
          entry.2.minimum ≤ (countOf entry.1 document.blocks : Int))
  total : (document.blocks.length : Int) ≤ rules.maxTotalBlocks
  mandatory : ∀ type ∈ rules.mandatoryBlocks, ∃ block ∈ document.blocks, block.type = type
  distinctIds : (document.blocks.map Block.id).Nodup
  content : ∀ block ∈ document.blocks, HasContent block
  colors : ∀ block ∈ document.blocks, HasHexColors block
  helpSection : rules.helpSectionRequired = true → document.helpSection.isSome = true
  complianceSection :
    rules.complianceSectionRequired = true → document.complianceSection.isSome = true

section Texts

theorem isAllBlank_eq_false_iff
    {text : Text} :
    isAllBlank text = false ↔ HoldsText text := by
  simp [isAllBlank, HoldsText]

/-- A text that begins with something to read is not blank. -/
theorem isAllBlank_of_prefix
    {start text : Text}
    (isPrefix : start <+: text)
    (holdsText : HoldsText start) :
    isAllBlank text = false := by
  obtain ⟨char, member, notBlank⟩ := holdsText
  exact isAllBlank_eq_false_iff.mpr ⟨char, isPrefix.subset member, notBlank⟩

theorem isHex_iff
    {color : Text} :
    Color.isHex color = true ↔
      ∃ digits : Text,
        (digits.length = 3 ∨ digits.length = 6) ∧
          (∀ digit ∈ digits, isHexDigit digit = true) ∧ color = '#' :: digits := by
  unfold Color.isHex
  split
  · rename_i digits
    simp
  · rename_i otherwise
    simp only [Bool.false_eq_true, false_iff, not_exists, not_and]
    exact fun digits _ _ shape => otherwise digits shape

theorem isHexLine_iff
    {color : Text} :
    Color.isHexLine color = true ↔ MatchesHexColor color := by
  have withBreak : (color.getLast? = some '\n' ∧ Color.isHex color.dropLast = true) ↔
      ∃ digits : Text,
        (digits.length = 3 ∨ digits.length = 6) ∧
          (∀ digit ∈ digits, isHexDigit digit = true) ∧ color = '#' :: (digits ++ ['\n']) := by
    constructor
    · rintro ⟨isLast, isHex⟩
      obtain ⟨digits, length, areDigits, shape⟩ := isHex_iff.mp isHex
      refine ⟨digits, length, areDigits, ?_⟩
      rw [← List.dropLast_append_getLast? '\n' isLast, shape]
      rfl
    · rintro ⟨digits, length, areDigits, rfl⟩
      rw [← List.cons_append]
      exact ⟨List.getLast?_concat, isHex_iff.mpr ⟨digits, length, areDigits, List.dropLast_concat⟩⟩
  rw [Color.isHexLine, Bool.or_eq_true, Bool.and_eq_true, beq_iff_eq, isHex_iff, withBreak,
    ← exists_or]
  simp only [MatchesHexColor, and_or_left]

end Texts

/-- None of the issues is an error. -/
def NoErrors (issues : List Issue) : Prop :=
  ∀ issue ∈ issues, issue.isError = false

namespace NoErrors

theorem nil : NoErrors [] := by
  simp [NoErrors]

theorem append_iff
    {first second : List Issue} :
    NoErrors (first ++ second) ↔ NoErrors first ∧ NoErrors second :=
  List.forall_mem_append

theorem flatMap_iff
    {Item : Type}
    {items : List Item}
    {find : Item → List Issue} :
    NoErrors (items.flatMap find) ↔ ∀ item ∈ items, NoErrors (find item) := by
  simp only [NoErrors, List.mem_flatMap]
  constructor
  · exact fun none item isItem issue inItem => none issue ⟨item, isItem, inItem⟩
  · rintro none issue ⟨item, isItem, inItem⟩
    exact none item isItem issue inItem

theorem map_iff
    {Item : Type}
    {items : List Item}
    {find : Item → Issue}
    (areErrors : ∀ item, (find item).isError = true) :
    NoErrors (items.map find) ↔ items = [] := by
  constructor
  · intro none
    refine List.eq_nil_iff_forall_not_mem.mpr fun item member => ?_
    have noError := none (find item) (List.mem_map_of_mem member)
    rw [areErrors item] at noError
    cases noError
  · rintro rfl
    exact nil

/-- An error that is found on a condition is not found exactly if the condition fails. -/
theorem ite_iff
    {condition : Prop}
    [Decidable condition]
    {issue : Issue}
    (isError : issue.isError = true) :
    NoErrors (if condition then [issue] else []) ↔ ¬ condition := by
  by_cases holds : condition <;> simp [NoErrors, holds, isError]

theorem issueIf_iff
    {condition : Bool}
    {issue : Issue}
    (isError : issue.isError = true) :
    NoErrors (issueIf condition issue) ↔ condition = false := by
  rw [issueIf, ite_iff isError, Bool.not_eq_true]

/-- A warning is no error, on whatever condition it is found. -/
theorem ite_of_warning
    (condition : Prop)
    [Decidable condition]
    {issue : Issue}
    (isWarning : issue.isError = false) :
    NoErrors (if condition then [issue] else []) := by
  by_cases holds : condition <;> simp [NoErrors, holds, isWarning]

end NoErrors

section Rules

variable (context : Context)

theorem noErrors_checkTypes_iff :
    NoErrors (checkTypes context) ↔
      ∀ block ∈ context.document.blocks, block.type ∈ context.rules.allowedBlockTypes := by
  rw [checkTypes, NoErrors.map_iff fun _ => rfl, List.filter_eq_nil_iff]
  simp

/-- Too few blocks of a type are an error only where they are required. -/
theorem noErrors_checkCount_iff
    (count : Nat)
    (type : BlockType)
    (constraint : BlockConstraint) :
    NoErrors (checkCount count type constraint) ↔
      (count : Int) ≤ constraint.maximum ∧
        (constraint.required = true → constraint.minimum ≤ (count : Int)) := by
  rw [checkCount, NoErrors.append_iff, and_comm]
  refine and_congr ?_ ?_
  · rw [NoErrors.ite_iff rfl, Int.not_lt]
  · cases required : constraint.required with
    | true =>
        rw [NoErrors.ite_iff (by rfl), Int.not_lt]
        simp
    | false =>
        simp only [Bool.false_eq_true, false_implies, iff_true]
        exact NoErrors.ite_of_warning _ rfl

theorem noErrors_checkCounts_iff :
    NoErrors (checkCounts context) ↔
      ∀ entry ∈ context.rules.blockConstraints,
        (countOf entry.1 context.document.blocks : Int) ≤ entry.2.maximum ∧
          (entry.2.required = true →
            entry.2.minimum ≤ (countOf entry.1 context.document.blocks : Int)) := by
  rw [checkCounts, NoErrors.flatMap_iff]
  exact forall₂_congr fun _ _ => noErrors_checkCount_iff _ _ _

theorem noErrors_checkTotal_iff :
    NoErrors (checkTotal context) ↔
      (context.document.blocks.length : Int) ≤ context.rules.maxTotalBlocks := by
  rw [checkTotal, NoErrors.ite_iff rfl, Int.not_lt]

theorem noErrors_checkMandatory_iff :
    NoErrors (checkMandatory context) ↔
      ∀ type ∈ context.rules.mandatoryBlocks,
        ∃ block ∈ context.document.blocks, block.type = type := by
  rw [checkMandatory, NoErrors.map_iff fun _ => rfl, List.filter_eq_nil_iff]
  simp

/-- No block is found to repeat a name exactly if the names differ from each other and from
those seen before. -/
theorem noErrors_duplicatesFrom_iff
    {seen : List Text}
    {blocks : List Block} :
    NoErrors (duplicatesFrom seen blocks) ↔
      (blocks.map Block.id).Nodup ∧ ∀ block ∈ blocks, block.id ∉ seen := by
  induction blocks generalizing seen with
  | nil => simp [duplicatesFrom, NoErrors.nil]
  | cons block rest inductionHypothesis =>
      rw [duplicatesFrom, NoErrors.append_iff, NoErrors.ite_iff rfl, inductionHypothesis]
      simp only [List.map_cons, List.nodup_cons, List.mem_map, List.mem_cons,
        forall_eq_or_imp, not_or, not_exists, not_and]
      constructor
      · rintro ⟨isNew, distinct, apart⟩
        exact ⟨⟨fun other member => (apart other member).1, distinct⟩, isNew,
          fun other member => (apart other member).2⟩
      · rintro ⟨⟨differs, distinct⟩, isNew, apart⟩
        exact ⟨isNew, distinct, fun other member => ⟨differs other member, apart other member⟩⟩

/-- A URL is found missing or wrong exactly if it does not begin as it should. -/
theorem noErrors_url_iff
    {url : Text}
    {begins : Bool}
    {missing wrong : Issue}
    (beginsWithText : begins = true → isAllBlank url = false)
    (missingIsError : missing.isError = true)
    (wrongIsError : wrong.isError = true) :
    NoErrors (if isAllBlank url then [missing] else issueIf (!begins) wrong) ↔
      begins = true := by
  cases isBlank : isAllBlank url with
  | true =>
      have notBegins : begins = false :=
        Bool.eq_false_iff.mpr fun isStart => absurd (beginsWithText isStart) (by simp [isBlank])
      simp [NoErrors, missingIsError, notBegins]
  | false => simp [NoErrors.issueIf_iff wrongIsError]

theorem noErrors_checkImage_iff
    (image : ImageBlock) :
    NoErrors (checkImage image) ↔ HasContent (.image image) := by
  have protocol : startsWith "https://" image.src = true → isAllBlank image.src = false :=
    fun begins => isAllBlank_of_prefix (startsWith_iff.mp begins) ⟨'h', by decide⟩
  rw [checkImage, NoErrors.append_iff, noErrors_url_iff protocol rfl rfl,
    NoErrors.issueIf_iff rfl, isAllBlank_eq_false_iff, startsWith_iff]
  rfl

theorem noErrors_checkButton_iff
    (button : ButtonBlock) :
    NoErrors (checkButton button) ↔ HasContent (.button button) := by
  have protocol : (startsWith "https://" button.href || startsWith "http://" button.href) =
      true → isAllBlank button.href = false := by
    rw [Bool.or_eq_true, startsWith_iff, startsWith_iff]
    rintro (isPrefix | isPrefix)
    · exact isAllBlank_of_prefix isPrefix ⟨'h', by decide⟩
    · exact isAllBlank_of_prefix isPrefix ⟨'h', by decide⟩
  rw [checkButton, NoErrors.append_iff, NoErrors.issueIf_iff rfl, ← Bool.not_or,
    noErrors_url_iff protocol rfl rfl, isAllBlank_eq_false_iff, Bool.or_eq_true,
    startsWith_iff, startsWith_iff, or_comm]
  rfl

/-- A box without a background color is warned about only. -/
theorem noErrors_checkHighlightBox_iff
    (box : HighlightBoxBlock) :
    NoErrors (checkHighlightBox box) ↔ HasContent (.highlightBox box) := by
  rw [checkHighlightBox, NoErrors.append_iff, NoErrors.issueIf_iff rfl, isAllBlank_eq_false_iff]
  exact and_iff_left (NoErrors.ite_of_warning _ rfl)

theorem noErrors_checkBlockContent_iff
    (block : Block) :
    NoErrors (checkBlockContent block) ↔ HasContent block := by
  cases block with
  | title title => exact (NoErrors.issueIf_iff rfl).trans isAllBlank_eq_false_iff
  | paragraph paragraph => exact (NoErrors.issueIf_iff rfl).trans isAllBlank_eq_false_iff
  | image image => exact noErrors_checkImage_iff image
  | button button => exact noErrors_checkButton_iff button
  | divider divider => exact iff_of_true NoErrors.nil trivial
  | highlightBox box => exact noErrors_checkHighlightBox_iff box

theorem isBadColor_eq_false_iff
    {color : Text} :
    isBadColor color = false ↔ (color ≠ [] → MatchesHexColor color) := by
  rw [← isHexLine_iff]
  cases color with
  | nil => simp [isBadColor]
  | cons first rest => simp [isBadColor]

theorem noErrors_checkBlockColors_iff
    (block : Block) :
    NoErrors (checkBlockColors block) ↔ HasHexColors block := by
  rw [checkBlockColors, NoErrors.flatMap_iff]
  refine forall₂_congr fun field _ => ?_
  cases given : field.2 with
  | none => simp [NoErrors.nil]
  | some color =>
      rw [NoErrors.issueIf_iff rfl, isBadColor_eq_false_iff]
      simp

/-- Outside strict mode a block out of order is warned about only. -/
theorem noErrors_checkOrder
    (lenient : context.strict = false) :
    NoErrors (checkOrder context) := by
  unfold checkOrder
  split
  · exact NoErrors.nil
  · exact NoErrors.nil
  · intro issue member
    obtain ⟨block, _, rfl⟩ := List.mem_map.mp member
    rw [lenient]
    rfl

theorem noErrors_checkSections_iff :
    NoErrors (checkSections context) ↔
      (context.rules.helpSectionRequired = true →
          context.document.helpSection.isSome = true) ∧
        (context.rules.complianceSectionRequired = true →
          context.document.complianceSection.isSome = true) := by
  rw [checkSections, NoErrors.append_iff, NoErrors.issueIf_iff rfl, NoErrors.issueIf_iff rfl]
  simp [Option.isSome_iff_ne_none]

end Rules

end EmailComposer.Validation

namespace EmailComposer.Document

open EmailComposer.Validation

/-- Outside strict mode a document has no issues exactly if no rule finds an error. -/
theorem validate_eq_nil_iff_noErrors
    (document : Document)
    (rules : TemplateRules) :
    document.validate rules false = [] ↔
      ∀ rule ∈ allRules, NoErrors (rule.check ⟨rules, document, false⟩) := by
  rw [← NoErrors.flatMap_iff, validate, if_neg (by decide), List.filter_eq_nil_iff, NoErrors]
  simp only [Bool.not_eq_true]
  rfl

/-- Outside strict mode the validator finds nothing exactly in an acceptable document. -/
theorem validate_eq_nil_iff
    (document : Document)
    (rules : TemplateRules) :
    document.validate rules false = [] ↔ IsAcceptable rules document := by
  rw [validate_eq_nil_iff_noErrors]
  simp only [allRules, List.forall_mem_cons, List.not_mem_nil, false_implies, implies_true,
    and_true, noErrors_checkTypes_iff, noErrors_checkCounts_iff, noErrors_checkTotal_iff,
    noErrors_checkMandatory_iff, noErrors_checkSections_iff, noErrors_checkOrder, true_and,
    checkUniqueness, noErrors_duplicatesFrom_iff, checkContent, checkColors,
    NoErrors.flatMap_iff, noErrors_checkBlockContent_iff, noErrors_checkBlockColors_iff]
  constructor
  · rintro ⟨allowedTypes, counts, total, mandatory, ⟨distinctIds, _⟩, content, colors,
      helpSection, complianceSection⟩
    exact ⟨allowedTypes, counts, total, mandatory, distinctIds, content, colors, helpSection,
      complianceSection⟩
  · intro isAcceptable
    exact ⟨isAcceptable.allowedTypes, isAcceptable.counts, isAcceptable.total,
      isAcceptable.mandatory, ⟨isAcceptable.distinctIds, by simp⟩, isAcceptable.content,
      isAcceptable.colors, isAcceptable.helpSection, isAcceptable.complianceSection⟩

end EmailComposer.Document
