import EmailComposer.Proofs.Composition.Compose
import EmailComposer.Proofs.Validation.Rule

namespace EmailComposer

/-!
# Recorded URL issues

Every block with an unusable URL leaves one issue on the composed document, in the order
of the blocks. Sanitizing changes no URL, and no rule of the validator uses the code of
these issues, so they are found again by their code.
-/

open EmailComposer.Text
open EmailComposer.Json
open EmailComposer.Validation

namespace Composition

/-- Nothing is recorded exactly if every URL can be used. -/
theorem map_urlIssue_eq_nil_iff
    {blocks : List Block} :
    (blocks.filter Block.hasUnusableUrl).map urlIssue = [] ↔
      ∀ block ∈ blocks, block.hasUnusableUrl = false := by
  simp

theorem urlIssueCode_not_mem_ruleCodes :
    urlIssueCode ∉ ruleCodes := by
  decide

/-- The validator finds no issue with the code of URL issues. -/
theorem code_ne_of_mem_validate
    {document : Document}
    {rules : TemplateRules}
    {strict : Bool}
    {issue : Issue}
    (member : issue ∈ document.validate rules strict) :
    issue.code ≠ urlIssueCode := by
  have isFinding : issue ∈ document.findings rules strict := by
    unfold Document.validate at member
    split at member
    · exact member
    · exact List.mem_of_mem_filter member
  intro same
  exact urlIssueCode_not_mem_ruleCodes (same ▸ carryRuleCodes_findings _ _ _ issue isFinding)

section Compose

variable
  {settings : Settings}
  {templateName blocks data : Value}
  {document : Document}

/-- A composed document holds the blocks read for it, and the issues found by their code are
those that these blocks left. -/
theorem urlIssues_of_compose
    {raw : List Value}
    {read : List Block}
    (areRaw : rawBlocks blocks = .ok raw)
    (areRead : raw.mapM readBlock = .ok read)
    (composed : compose settings templateName blocks data = .ok document) :
    document.blocks = read.map Block.sanitizeContent ∧
      urlIssues document = (read.filter Block.hasUnusableUrl).map urlIssue := by
  obtain ⟨template, others, otherRead, personalData, _, areOthers, areOtherRead, _, rfl⟩ :=
    compose_eq_ok_iff.mp composed
  cases areRaw.symm.trans areOthers
  cases areRead.symm.trans areOtherRead
  refine ⟨rfl, ?_⟩
  have noneFound : ∀ document : Document,
      (document.validate (Template.rules template) false).filter
        (fun issue => issue.code = urlIssueCode) = [] := by
    intro document
    refine List.filter_eq_nil_iff.mpr fun issue member => ?_
    simpa using code_ne_of_mem_validate member
  dsimp only [urlIssues, record]
  rw [List.filter_append, noneFound, List.append_nil]
  refine List.filter_eq_self.mpr fun issue member => ?_
  obtain ⟨block, _, rfl⟩ := List.mem_map.mp member
  exact decide_eq_true rfl

/-- Only errors are recorded on a composed document. -/
theorem isError_of_mem_validationErrors
    (composed : compose settings templateName blocks data = .ok document) :
    ∀ issue ∈ document.validationErrors, issue.severity = .error := by
  obtain ⟨template, raw, read, personalData, _, _, _, _, rfl⟩ := compose_eq_ok_iff.mp composed
  dsimp only [record]
  refine List.forall_mem_append.mpr ⟨?_, ?_⟩
  · intro issue member
    obtain ⟨block, _, rfl⟩ := List.mem_map.mp member
    rfl
  · intro issue member
    have isError : issue.isError = true := List.of_mem_filter member
    simpa [Issue.isError] using isError

/-- A composed document says whether issues were recorded on it. -/
theorem isValid_of_compose
    (composed : compose settings templateName blocks data = .ok document) :
    document.isValid = some document.validationErrors.isEmpty := by
  obtain ⟨_, _, _, _, _, _, _, _, rfl⟩ := compose_eq_ok_iff.mp composed
  rfl

end Compose

end Composition

end EmailComposer
