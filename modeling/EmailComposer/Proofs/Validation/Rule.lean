import Mathlib.Data.List.Basic
import EmailComposer.Validation.Summary

namespace EmailComposer.Validation

/-!
# What the rules find

Every finding carries one of the codes of the rules. Only the order of the blocks is
judged differently in strict mode, and no registered template enforces an order.
-/

open EmailComposer.Text

/-- The code of findings about the order of the blocks. -/
def orderCode : Text :=
  "BLOCK_ORDER_VIOLATION"

/-- The codes of all other findings. -/
def otherCodes : List Text :=
  ["BLOCK_TYPE_NOT_ALLOWED", "MIN_BLOCKS_NOT_MET", "MAX_BLOCKS_EXCEEDED",
    "MAX_TOTAL_BLOCKS_EXCEEDED", "MANDATORY_BLOCK_MISSING", "DUPLICATE_BLOCK_ID", "EMPTY_TITLE",
    "EMPTY_PARAGRAPH", "MISSING_IMAGE_SRC", "INVALID_IMAGE_PROTOCOL", "MISSING_IMAGE_ALT",
    "EMPTY_BUTTON_LABEL", "MISSING_BUTTON_HREF", "INVALID_BUTTON_PROTOCOL",
    "EMPTY_HIGHLIGHT_BOX", "MISSING_HIGHLIGHT_COLOR", "INVALID_COLOR_FORMAT",
    "HELP_SECTION_MISSING", "COMPLIANCE_SECTION_MISSING"]

/-- The codes of all findings. -/
def ruleCodes : List Text :=
  orderCode :: otherCodes

theorem orderCode_not_mem_otherCodes : orderCode ∉ otherCodes := by
  decide +kernel

/-- Every issue of a list carries one of some codes. -/
def CarryCodes (codes : List Text) (issues : List Issue) : Prop :=
  ∀ issue ∈ issues, issue.code ∈ codes

namespace CarryCodes

variable {codes : List Text}

theorem nil : CarryCodes codes [] := by
  simp [CarryCodes]

/-- An issue carries a code; one of the other codes is found in their list. -/
theorem single
    {issue : Issue}
    (isCode : issue.code ∈ codes := by
      simp only [Issue.ofBlock, Issue.ofType, Issue.ofDocument, otherCodes, List.mem_cons, true_or,
        or_true]) :
    CarryCodes codes [issue] := by
  simpa [CarryCodes] using isCode

theorem append
    {first second : List Issue}
    (firstCarries : CarryCodes codes first)
    (secondCarries : CarryCodes codes second) :
    CarryCodes codes (first ++ second) :=
  List.forall_mem_append.mpr ⟨firstCarries, secondCarries⟩

theorem flatMap
    {Item : Type}
    {items : List Item}
    {find : Item → List Issue}
    (carries : ∀ item ∈ items, CarryCodes codes (find item)) :
    CarryCodes codes (items.flatMap find) := by
  intro issue member
  obtain ⟨item, isItem, inItem⟩ := List.mem_flatMap.mp member
  exact carries item isItem issue inItem

theorem map
    {Item : Type}
    {items : List Item}
    {find : Item → Issue}
    (carries : ∀ item, CarryCodes codes [find item]) :
    CarryCodes codes (items.map find) := by
  rw [List.map_eq_flatMap]
  exact .flatMap fun item _ => carries item

theorem issueIf
    {condition : Bool}
    {issue : Issue}
    (carries : CarryCodes codes [issue]) :
    CarryCodes codes (Validation.issueIf condition issue) := by
  unfold Validation.issueIf
  split
  · exact carries
  · exact nil

end CarryCodes

theorem carryOtherCodes_checkCount
    (count : Nat)
    (type : BlockType)
    (constraint : BlockConstraint) :
    CarryCodes otherCodes (checkCount count type constraint) := by
  refine .append ?_ ?_
  · split
    · exact .single
    · exact .nil
  · split
    · exact .single
    · exact .nil

theorem carryOtherCodes_duplicatesFrom
    (seen : List Text)
    (blocks : List Block) :
    CarryCodes otherCodes (duplicatesFrom seen blocks) := by
  induction blocks generalizing seen with
  | nil => exact .nil
  | cons block rest inductionHypothesis =>
      refine .append ?_ (inductionHypothesis _)
      split
      · exact .single
      · exact .nil

theorem carryOtherCodes_checkBlockContent
    (block : Block) :
    CarryCodes otherCodes (checkBlockContent block) := by
  cases block with
  | title title => exact .issueIf .single
  | paragraph paragraph => exact .issueIf .single
  | divider divider => exact .nil
  | image image =>
      refine .append ?_ (.issueIf .single)
      split
      · exact .single
      · exact .issueIf .single
  | button button =>
      refine .append (.issueIf .single) ?_
      split
      · exact .single
      · exact .issueIf .single
  | highlightBox box => exact .append (.issueIf .single) (.issueIf .single)

theorem carryOtherCodes_checkBlockColors
    (block : Block) :
    CarryCodes otherCodes (checkBlockColors block) := by
  refine .flatMap fun field _ => ?_
  split
  · exact .nil
  · exact .issueIf .single

theorem carryOrderCode_checkOrder
    (context : Context) :
    CarryCodes [orderCode] (checkOrder context) := by
  unfold checkOrder
  split
  · exact .nil
  · exact .nil
  · exact .map fun block => .single (List.mem_singleton.mpr rfl)

/-- Documents that validation cannot tell apart. -/
structure LooksAlike (document other : Document) : Prop where
  blocks : document.blocks = other.blocks
  helpSection : document.helpSection = other.helpSection
  complianceSection : document.complianceSection = other.complianceSection

/-- A check that does not depend on strictness and finds nothing about the order of blocks. -/
structure IsSteady (check : Context → List Issue) : Prop where
  congr :
    ∀ rules {document other : Document} strict otherStrict,
      LooksAlike document other →
      check ⟨rules, document, strict⟩ = check ⟨rules, other, otherStrict⟩
  codes : ∀ context, CarryCodes otherCodes (check context)

/-- Every rule is the one about order or steady. -/
theorem order_or_isSteady
    {rule : Rule}
    (isRule : rule ∈ allRules) :
    rule.check = checkOrder ∨ IsSteady rule.check := by
  simp only [allRules, List.mem_cons, List.not_mem_nil, or_false] at isRule
  rcases isRule with rfl | rfl | rfl | rfl | rfl | rfl | rfl | rfl | rfl
  · refine .inr ⟨fun _ _ _ _ _ alike => by simp only [checkTypes, alike.blocks], fun _ => ?_⟩
    exact .map fun block => .single
  · refine .inr ⟨fun _ _ _ _ _ alike => by simp only [checkCounts, alike.blocks], fun _ => ?_⟩
    exact .flatMap fun entry _ => carryOtherCodes_checkCount _ _ _
  · refine .inr ⟨fun _ _ _ _ _ alike => by simp only [checkTotal, alike.blocks], fun _ => ?_⟩
    dsimp only [checkTotal]
    split
    · exact .single
    · exact .nil
  · refine .inr ⟨fun _ _ _ _ _ alike => by simp only [checkMandatory, alike.blocks], fun _ => ?_⟩
    exact .map fun type => .single
  · exact .inr ⟨fun _ _ _ _ _ alike => by simp only [checkUniqueness, alike.blocks],
      fun _ => carryOtherCodes_duplicatesFrom [] _⟩
  · exact .inr ⟨fun _ _ _ _ _ alike => by simp only [checkContent, alike.blocks],
      fun _ => .flatMap fun block _ => carryOtherCodes_checkBlockContent block⟩
  · exact .inr ⟨fun _ _ _ _ _ alike => by simp only [checkColors, alike.blocks],
      fun _ => .flatMap fun block _ => carryOtherCodes_checkBlockColors block⟩
  · exact .inl rfl
  · refine .inr ⟨fun _ _ _ _ _ alike => by
      simp only [checkSections, alike.helpSection, alike.complianceSection], fun _ => ?_⟩
    exact .append (.issueIf .single) (.issueIf .single)

/-- Every rule finds issues with codes of the rules only. -/
theorem carryRuleCodes_check
    {rule : Rule}
    (isRule : rule ∈ allRules)
    (context : Context) :
    CarryCodes ruleCodes (rule.check context) := by
  intro issue isFound
  rcases order_or_isSteady isRule with isOrder | steady
  · rw [isOrder] at isFound
    have isCode := List.mem_singleton.mp (carryOrderCode_checkOrder context issue isFound)
    exact List.mem_cons.mpr (.inl isCode)
  · exact List.mem_cons_of_mem _ (steady.codes context issue isFound)

/-- Whatever is found about a document carries a code of the rules. -/
theorem carryRuleCodes_findings
    (document : Document)
    (rules : TemplateRules)
    (strict : Bool) :
    CarryCodes ruleCodes (document.findings rules strict) := by
  intro issue isFound
  obtain ⟨rule, isRule, inRule⟩ := List.mem_flatMap.mp isFound
  exact carryRuleCodes_check isRule _ issue inRule

/-- Where blocks may be reordered, a rule finds the same about documents that look alike,
strict or not. -/
theorem check_congr
    {rule : Rule}
    (isRule : rule ∈ allRules)
    {rules : TemplateRules}
    (reorders : rules.allowReordering = true)
    {document other : Document}
    (alike : LooksAlike document other)
    (strict otherStrict : Bool) :
    rule.check ⟨rules, document, strict⟩ = rule.check ⟨rules, other, otherStrict⟩ := by
  rcases order_or_isSteady isRule with isOrder | steady
  · have noOrder : enforcedOrder? rules = none := by
      rw [enforcedOrder?, if_pos reorders]
    simp only [isOrder, checkOrder, noOrder]
  · exact steady.congr rules strict otherStrict alike

theorem findings_congr
    {rules : TemplateRules}
    (reorders : rules.allowReordering = true)
    {document other : Document}
    (alike : LooksAlike document other)
    (strict otherStrict : Bool) :
    document.findings rules strict = other.findings rules otherStrict :=
  List.flatMap_congr fun _ isRule => check_congr isRule reorders alike strict otherStrict

/-- No registered template enforces an order. -/
theorem allowReordering_rules
    (template : TemplateType) :
    (Template.rules template).allowReordering = true := by
  cases template <;> rfl

end EmailComposer.Validation
