import Mathlib.Data.List.Perm.Basic
import EmailComposer.Proofs.Validation.Rule

namespace EmailComposer

/-!
# Reordered blocks

Where no order is enforced, moving blocks around changes neither the findings about a
document nor its summary. Which block is found to repeat a name does change, but the same
names are repeated equally often.
-/

open EmailComposer.Text
open EmailComposer.Validation

namespace Issue

/-- What an issue says: its code and wording, how severe it is, and the block it names. -/
structure Statement where
  code : Text
  message : Text
  severity : Severity
  blockId : Option Text
  deriving Repr, DecidableEq

/-- The statement of an issue, without the type of the block. -/
def statement (issue : Issue) : Statement :=
  ⟨issue.code, issue.message, issue.severity, issue.blockId⟩

end Issue

namespace Validation

/-- The rules let blocks stand in any order. -/
def AllowsAnyOrder (rules : TemplateRules) : Prop :=
  rules.allowReordering = true ∨ rules.requireBlockOrder = none ∨
    rules.requireBlockOrder = some []

/-- Two lists of issues make the same statements equally often. -/
def SameStatements (first second : List Issue) : Prop :=
  (first.map Issue.statement).Perm (second.map Issue.statement)

namespace SameStatements

theorem of_perm
    {first second : List Issue}
    (permuted : first.Perm second) :
    SameStatements first second :=
  permuted.map Issue.statement

theorem append
    {first second third fourth : List Issue}
    (same : SameStatements first third)
    (sameBehind : SameStatements second fourth) :
    SameStatements (first ++ second) (third ++ fourth) := by
  simpa [SameStatements] using List.Perm.append same sameBehind

/-- Issues that are told apart by their statements may be dropped on both sides. -/
theorem filter
    {first second : List Issue}
    (same : SameStatements first second)
    (select : Severity → Bool) :
    SameStatements (first.filter fun issue => select issue.severity)
      (second.filter fun issue => select issue.severity) := by
  have selected : ∀ issues : List Issue,
      (issues.filter fun issue => select issue.severity).map Issue.statement =
        (issues.map Issue.statement).filter fun said => select said.severity := by
    intro issues
    rw [List.filter_map]
    rfl
  rw [SameStatements, selected, selected]
  exact List.Perm.filter _ same

theorem flatMap
    {Item : Type}
    {items : List Item}
    {first second : Item → List Issue}
    (same : ∀ item ∈ items, SameStatements (first item) (second item)) :
    SameStatements (items.flatMap first) (items.flatMap second) := by
  induction items with
  | nil => exact .of_perm .rfl
  | cons item rest inductionHypothesis =>
      obtain ⟨sameHere, sameBehind⟩ := List.forall_mem_cons.mp same
      exact sameHere.append (inductionHypothesis sameBehind)

theorem length_eq
    {first second : List Issue}
    (same : SameStatements first second) :
    first.length = second.length := by
  simpa using List.Perm.length_eq same

theorem isEmpty_eq
    {first second : List Issue}
    (same : SameStatements first second) :
    first.isEmpty = second.isEmpty := by
  rw [Bool.eq_iff_iff, List.isEmpty_iff, List.isEmpty_iff, ← List.length_eq_zero_iff,
    same.length_eq, List.length_eq_zero_iff]

end SameStatements

section Names

/-- The names of a list that stand behind the same name or were seen before. -/
def repeatedFrom (seen : List Text) : List Text → List Text
  | [] => []
  | name :: rest =>
      if name ∈ seen then
        name :: repeatedFrom (name :: seen) rest
      else
        repeatedFrom (name :: seen) rest

/-- The statement about a repeated name. -/
def repeatedStatement (name : Text) : Issue.Statement :=
  ⟨"DUPLICATE_BLOCK_ID", "Duplicate block ID: " ++ name, .error, some name⟩

/-- The findings about repeated names state these names and nothing else. -/
theorem map_statement_duplicatesFrom
    (seen : List Text)
    (blocks : List Block) :
    (duplicatesFrom seen blocks).map Issue.statement =
      (repeatedFrom seen (blocks.map Block.id)).map repeatedStatement := by
  induction blocks generalizing seen with
  | nil => rfl
  | cons block rest inductionHypothesis =>
      rw [duplicatesFrom, List.map_append, inductionHypothesis, List.map_cons, repeatedFrom]
      by_cases isSeen : block.id ∈ seen
      · simp only [isSeen, ↓reduceIte, List.map_cons, List.map_nil, List.singleton_append]
        rfl
      · simp only [isSeen, ↓reduceIte, List.map_nil, List.nil_append]

/-- A name is repeated as often as it stands in the list, less once if it was new. -/
theorem count_repeatedFrom
    (seen names : List Text)
    (name : Text) :
    (repeatedFrom seen names).count name =
      names.count name - (if name ∈ seen then 0 else 1) := by
  induction names generalizing seen with
  | nil => simp [repeatedFrom]
  | cons first rest inductionHypothesis =>
      have onward := inductionHypothesis (first :: seen)
      rw [repeatedFrom]
      by_cases isFirst : first = name
      · subst isFirst
        by_cases isSeen : first ∈ seen <;> simp [isSeen, onward]
      · have sameSeen : name ∈ first :: seen ↔ name ∈ seen := by
          simp [Ne.symm isFirst]
        simp only [sameSeen] at onward
        by_cases isSeen : first ∈ seen <;> simp [isSeen, isFirst, onward]

/-- Which names are repeated, and how often, does not depend on their order. -/
theorem repeatedFrom_perm
    {names other : List Text}
    (permuted : names.Perm other)
    (seen : List Text) :
    (repeatedFrom seen names).Perm (repeatedFrom seen other) := by
  rw [List.perm_iff_count]
  intro name
  rw [count_repeatedFrom, count_repeatedFrom, permuted.count_eq]

end Names

/-- Where any order is allowed, no block is found out of order. -/
theorem checkOrder_of_anyOrder
    {rules : TemplateRules}
    (anyOrder : AllowsAnyOrder rules)
    (document : Document)
    (strict : Bool) :
    checkOrder ⟨rules, document, strict⟩ = [] := by
  have noOrder : enforcedOrder? rules = none ∨ enforcedOrder? rules = some [] := by
    unfold enforcedOrder?
    rcases anyOrder with allowed | none | empty
    · exact .inl (if_pos allowed)
    · rw [none, ite_self]
      exact .inl rfl
    · rw [empty]
      split
      · exact .inl rfl
      · exact .inr rfl
  rcases noOrder with none | empty
  · simp only [checkOrder, none]
  · simp only [checkOrder, empty]

section Rules

variable {blocks other : List Block} (permuted : blocks.Perm other)

include permuted

theorem countOf_perm
    (type : BlockType) :
    countOf type blocks = countOf type other :=
  permuted.countP_eq _

theorem duplicatesFrom_perm
    (seen : List Text) :
    SameStatements (duplicatesFrom seen blocks) (duplicatesFrom seen other) := by
  rw [SameStatements, map_statement_duplicatesFrom, map_statement_duplicatesFrom]
  exact (repeatedFrom_perm (permuted.map Block.id) seen).map repeatedStatement

/-- A rule that looks at one block after another finds the same about reordered blocks. -/
theorem flatMap_perm
    (find : Block → List Issue) :
    SameStatements (blocks.flatMap find) (other.flatMap find) :=
  .of_perm (permuted.flatMap_right find)

/-- Where any order is allowed, every rule says the same about reordered blocks. -/
theorem check_perm
    {rule : Rule}
    (isRule : rule ∈ allRules)
    {rules : TemplateRules}
    (anyOrder : AllowsAnyOrder rules)
    (document : Document)
    (strict : Bool) :
    SameStatements
      (rule.check ⟨rules, { document with blocks := blocks }, strict⟩)
      (rule.check ⟨rules, { document with blocks := other }, strict⟩) := by
  simp only [allRules, List.mem_cons, List.not_mem_nil, or_false] at isRule
  rcases isRule with rfl | rfl | rfl | rfl | rfl | rfl | rfl | rfl | rfl
  · exact .of_perm ((permuted.filter _).map _)
  · simp only [checkCounts, countOf_perm permuted]
    exact .of_perm .rfl
  · simp only [checkTotal, permuted.length_eq]
    exact .of_perm .rfl
  · have sameMissing : ∀ type : BlockType,
        (blocks.all fun block => block.type ≠ type) = other.all fun block => block.type ≠ type :=
      fun type => permuted.all_eq
    simp only [checkMandatory, sameMissing]
    exact .of_perm .rfl
  · exact duplicatesFrom_perm permuted []
  · exact flatMap_perm permuted checkBlockContent
  · exact flatMap_perm permuted checkBlockColors
  · have noOrder := checkOrder_of_anyOrder anyOrder
    simp only [noOrder]
    exact .of_perm .rfl
  · exact .of_perm .rfl

theorem findings_perm
    {rules : TemplateRules}
    (anyOrder : AllowsAnyOrder rules)
    (document : Document)
    (strict : Bool) :
    SameStatements
      (Document.findings { document with blocks := blocks } rules strict)
      (Document.findings { document with blocks := other } rules strict) :=
  .flatMap fun _ isRule => check_perm permuted isRule anyOrder document strict

theorem validate_perm
    {rules : TemplateRules}
    (anyOrder : AllowsAnyOrder rules)
    (document : Document)
    (strict : Bool) :
    SameStatements
      (Document.validate { document with blocks := blocks } rules strict)
      (Document.validate { document with blocks := other } rules strict) := by
  have same := findings_perm permuted anyOrder document strict
  cases strict with
  | true => exact same
  | false => exact same.filter fun severity => severity = .error

end Rules

/-- The registered templates allow any order. -/
theorem allowsAnyOrder_rules
    (template : TemplateType) :
    AllowsAnyOrder (Template.rules template) :=
  .inl (allowReordering_rules template)

end Validation

open Validation

/--
Where any order is allowed, as in every registered template, moving blocks around changes
no statement that the validator makes. So a document stays as valid as it was, and its
summary counts the same.
-/
theorem Document.reordered_sameStatements
    {document : Document}
    {blocks : List Block}
    (permuted : blocks.Perm document.blocks) :
    (∀ rules, AllowsAnyOrder rules → ∀ strict,
        SameStatements
          (Document.validate { document with blocks := blocks } rules strict)
          (document.validate rules strict)) ∧
      (∀ template, AllowsAnyOrder (Template.rules template)) ∧
        (∀ strict,
          Document.passes { document with blocks := blocks } strict = document.passes strict) ∧
          ∀ countsWarnings,
            let reordered :=
              ValidationSummary.ofDocument { document with blocks := blocks } countsWarnings
            let summary := ValidationSummary.ofDocument document countsWarnings
            reordered.isValid = summary.isValid ∧
              reordered.errorCount = summary.errorCount ∧
                reordered.warningCount = summary.warningCount := by
  have same : ∀ rules, AllowsAnyOrder rules → ∀ strict,
      SameStatements
        (Document.validate { document with blocks := blocks } rules strict)
        (document.validate rules strict) :=
    fun _ anyOrder strict => validate_perm permuted anyOrder document strict
  have sameIssues := fun strict => same _ (allowsAnyOrder_rules document.templateType) strict
  have sameErrors := ((sameIssues true).filter fun severity => severity = .error).length_eq
  have sameWarnings := ((sameIssues true).filter fun severity => severity = .warning).length_eq
  refine ⟨same, allowsAnyOrder_rules, fun strict => (sameIssues strict).isEmpty_eq,
    fun countsWarnings => ⟨?_, sameErrors, ?_⟩⟩
  · exact ((sameIssues true).filter fun severity => severity = .error).isEmpty_eq
  · cases countsWarnings with
    | true => exact sameWarnings
    | false => rfl

/-- A title and two paragraphs, the first two of one name. -/
def twinBlocks : List Block :=
  [.title ⟨"a", "Notice", .h2, none, none⟩,
    .paragraph ⟨"a", "The fund closes.", none, none, none, none⟩,
    .paragraph ⟨"b", "Thank you.", none, none, none, none⟩]

/-- A notice of these blocks. -/
def twinNotice : Document where
  id := "1"
  templateType := .closeFund
  version := 1
  blocks := twinBlocks
  header := ⟨[], none, false⟩
  helpSection := some ⟨[], [], [], none⟩
  complianceSection := some ⟨[], none, none⟩
  footer := ⟨[], [], [], []⟩
  personalizationVariables := none
  isValid := none
  validationErrors := []

/-- Turned around, the notice repeats the same name, now with the other block. -/
theorem Document.reordered_sameStatements_of_twins :
    twinBlocks.reverse.Perm twinNotice.blocks ∧
      AllowsAnyOrder Template.closeFund ∧
        SameStatements
          (Document.validate { twinNotice with blocks := twinBlocks.reverse }
            Template.closeFund true)
          (twinNotice.validate Template.closeFund true) ∧
          ((Document.validate { twinNotice with blocks := twinBlocks.reverse }
              Template.closeFund true).map Issue.blockType,
            (twinNotice.validate Template.closeFund true).map Issue.blockType) =
            ([some .title], [some .paragraph]) := by
  have permuted : twinBlocks.reverse.Perm twinNotice.blocks := List.reverse_perm twinBlocks
  have anyOrder := allowsAnyOrder_rules .closeFund
  exact ⟨permuted, anyOrder,
    (Document.reordered_sameStatements permuted).1 _ anyOrder true, by decide +kernel⟩

end EmailComposer
