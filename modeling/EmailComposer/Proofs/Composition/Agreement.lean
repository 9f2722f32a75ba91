import EmailComposer.Proofs.Composition.UrlIssue
import EmailComposer.Validation.Report

namespace EmailComposer.Composition

/-!
# Two verdicts on a document

A composition records the issues with URLs and the errors of the summary. The validator
looks at the beginning of a URL only, so a summary may find nothing wrong with a document
that was refused for a URL.
-/

open EmailComposer.Text
open EmailComposer.Json
open EmailComposer.Validation

/-- The URL of a button or an image begins as the validator asks. -/
def beginsLikeUrl : Block → Bool
  | .button block => startsWith "https://" block.href || startsWith "http://" block.href
  | .image block => startsWith "https://" block.src
  | _ => true

/-- A missing URL is an error, and so is one with another beginning. -/
theorem any_isError_of_url
    {isMissing begins : Bool}
    {missing wrong : Issue}
    (otherwise : begins = false)
    (missingIsError : missing.isError = true)
    (wrongIsError : wrong.isError = true) :
    (if isMissing then [missing] else issueIf (!begins) wrong).any Issue.isError = true := by
  cases isMissing with
  | true => simp [missingIsError]
  | false => simp [issueIf, otherwise, wrongIsError]

/-- A block whose URL begins otherwise has an error. -/
theorem any_isError_checkBlockContent
    {block : Block}
    (otherwise : beginsLikeUrl block = false) :
    (checkBlockContent block).any Issue.isError = true := by
  cases block with
  | button button =>
      rw [beginsLikeUrl] at otherwise
      rw [checkBlockContent, checkButton, List.any_append, ← Bool.not_or,
        any_isError_of_url otherwise, Bool.or_true]
      · rfl
      · rfl
  | image image =>
      rw [beginsLikeUrl] at otherwise
      rw [checkBlockContent, checkImage, List.any_append, any_isError_of_url otherwise,
        Bool.true_or]
      · rfl
      · rfl
  | _ => cases otherwise

/-- A summary without errors has seen such a beginning in every button and image. -/
theorem beginsLikeUrl_of_isValid
    {document : Document}
    {countsWarnings : Bool}
    (isValid : (ValidationSummary.ofDocument document countsWarnings).isValid = true) :
    ∀ block ∈ document.blocks, beginsLikeUrl block = true := by
  intro block isBlock
  by_contra otherwise
  obtain ⟨issue, isFound, isError⟩ :=
    List.any_eq_true.mp (any_isError_checkBlockContent (Bool.eq_false_iff.mpr otherwise))
  have isFinding : issue ∈ document.issues true := by
    have isRule : (⟨"BLOCK_CONTENT", checkContent⟩ : Rule) ∈ allRules := by
      simp [allRules]
    exact List.mem_flatMap.mpr ⟨_, isRule, List.mem_flatMap.mpr ⟨block, isBlock, isFound⟩⟩
  have noErrors : (document.issues true).filter Issue.isError = [] := by
    simpa [ValidationSummary.isValid, ValidationSummary.ofDocument] using isValid
  exact List.filter_eq_nil_iff.mp noErrors issue isFinding isError

section Composed

variable
  {settings : Settings}
  {templateName blocks data : Value}
  {document : Document}

/-- A composition records the URL issues of a document and the errors of its summary. -/
theorem validationErrors_of_compose
    (composed : compose settings templateName blocks data = .ok document)
    (countsWarnings : Bool) :
    document.validationErrors =
      urlIssues document ++ (ValidationSummary.ofDocument document countsWarnings).errors := by
  obtain ⟨template, raw, read, personalData, _, areRaw, areRead, _, isDocument⟩ :=
    compose_eq_ok_iff.mp composed
  rw [(urlIssues_of_compose areRaw areRead composed).2, isDocument]
  have alike : LooksAlike
      (assemble settings template (read.map Block.sanitizeContent) personalData)
      (record (assemble settings template (read.map Block.sanitizeContent) personalData)
        ((read.filter Block.hasUnusableUrl).map urlIssue ++
          (assemble settings template (read.map Block.sanitizeContent) personalData).validate
            (Template.rules template) false)) :=
    ⟨rfl, rfl, rfl⟩
  have same := findings_congr (allowReordering_rules template) alike false true
  exact congrArg
    (fun found => (read.filter Block.hasUnusableUrl).map urlIssue ++ found.filter Issue.isError)
    same

/-- The URL issues come before the others. -/
theorem exists_validationErrors_of_compose
    (composed : compose settings templateName blocks data = .ok document) :
    ∃ others,
      document.validationErrors = urlIssues document ++ others ∧
        ∀ issue ∈ others, issue.code ≠ urlIssueCode := by
  have recorded := validationErrors_of_compose composed true
  refine ⟨_, recorded, ?_⟩
  have found : urlIssues document = urlIssues document ++
      (ValidationSummary.ofDocument document true).errors.filter
        fun issue => issue.code = urlIssueCode := by
    conv_lhs => rw [urlIssues, recorded, List.filter_append, urlIssues, List.filter_filter]
    simp only [urlIssues, Bool.and_self]
  simpa using List.append_right_eq_self.mp found.symm

/-- No URL issue was recorded exactly if every URL can be used. -/
theorem urlIssues_eq_nil_iff
    (composed : compose settings templateName blocks data = .ok document) :
    urlIssues document = [] ↔ ∀ block ∈ document.blocks, block.hasUnusableUrl = false := by
  obtain ⟨raw, read, areRaw, areRead, _⟩ := exists_blocks_of_compose composed
  obtain ⟨areBlocks, areIssues⟩ := urlIssues_of_compose areRaw areRead composed
  rw [areIssues, areBlocks, map_urlIssue_eq_nil_iff]
  simp

/--
A composed document is valid exactly if its summary is and every URL in it can be used. So
the two verdicts differ only about URLs that begin as the validator asks and cannot be used.
-/
theorem isValid_iff_of_compose
    (composed : compose settings templateName blocks data = .ok document)
    (countsWarnings : Bool) :
    (document.isValid = some true ↔
        (ValidationSummary.ofDocument document countsWarnings).isValid = true ∧
          ∀ block ∈ document.blocks, block.hasUnusableUrl = false) ∧
      ((ValidationSummary.ofDocument document countsWarnings).isValid = true →
        ∀ block ∈ document.blocks, beginsLikeUrl block = true) := by
  refine ⟨?_, beginsLikeUrl_of_isValid⟩
  rw [isValid_of_compose composed, validationErrors_of_compose composed countsWarnings,
    ← urlIssues_eq_nil_iff composed, ValidationSummary.isValid]
  simp [and_comm]

end Composed

/-- A notice with a button whose URL names no host. -/
def noHostBlocks : List Value :=
  [.object [("type", .string "paragraph"), ("id", .string "1"), ("content", .string "a")],
    .object [("type", .string "paragraph"), ("id", .string "2"), ("content", .string "b")],
    .object [("type", .string "button"), ("id", .string "3"), ("label", .string "c"),
      ("href", .string "https://")]]

/-- The two verdicts on it differ. -/
theorem exists_noHostDocument :
    ∃ settings document,
      compose settings (.string "close-fund") (.array noHostBlocks) .null = .ok document ∧
        document.isValid = some false ∧
          (ValidationSummary.ofDocument document true).isValid = true := by
  have computed : ((Settings.read ⟨[]⟩).toOption.bind fun settings =>
      (compose settings (.string "close-fund") (.array noHostBlocks) .null).toOption).map
        (fun document =>
          (document.isValid, (ValidationSummary.ofDocument document true).isValid)) =
      some (some false, true) := by
    decide +kernel
  obtain ⟨document, isComposed, verdicts⟩ := Option.map_eq_some_iff.mp computed
  obtain ⟨settings, _, isOutcome⟩ := Option.bind_eq_some_iff.mp isComposed
  obtain ⟨isRefused, isPassed⟩ := Prod.mk.inj verdicts
  exact ⟨settings, document, toOption_eq_some_iff.mp isOutcome, isRefused, isPassed⟩

/-- So a valid summary does not mean a valid document. -/
theorem not_forall_isValid_iff :
    ¬ ∀ settings (template : TemplateType) (raw : List Value) data document,
      compose settings (.string template.name) (.array raw) data = .ok document →
        ((ValidationSummary.ofDocument document true).isValid = true ↔
          document.isValid = some true) := by
  intro agree
  obtain ⟨settings, document, composed, isRefused, isPassed⟩ := exists_noHostDocument
  rw [(agree settings .closeFund noHostBlocks .null document composed).mp isPassed] at isRefused
  cases isRefused

end EmailComposer.Composition
