import EmailComposer.Proofs.Validation.Rule

namespace EmailComposer

/-!
# Strict and lenient validation

Strict validation lists all findings. Lenient validation lists the errors among them, except
those about the order of the blocks, which are errors in strict mode only. Where no order is
enforced, as in every registered template, the errors are therefore the same.
-/

open EmailComposer.Text
open EmailComposer.Validation

namespace Validation

/-- An error that strictness does not matter for. -/
def isLastingError (issue : Issue) : Bool :=
  issue.isError && issue.code ≠ orderCode

/-- Findings that carry other codes are lasting errors if they are errors. -/
theorem filter_isLastingError
    {issues : List Issue}
    (carries : CarryCodes otherCodes issues) :
    issues.filter isLastingError = issues.filter Issue.isError := by
  refine List.filter_congr fun issue member => ?_
  have notOrder : issue.code ≠ orderCode := by
    intro same
    exact orderCode_not_mem_otherCodes (same ▸ carries issue member)
  simp [isLastingError, notOrder]

/-- What is found about the order of the blocks is no error in lenient mode. -/
theorem filter_isError_checkOrder
    (rules : TemplateRules)
    (document : Document) :
    (checkOrder ⟨rules, document, false⟩).filter Issue.isError = [] := by
  rw [List.filter_eq_nil_iff]
  intro issue member
  unfold checkOrder at member
  split at member
  · cases member
  · cases member
  · obtain ⟨block, _, rfl⟩ := List.mem_map.mp member
    exact Bool.false_ne_true

/-- It is no lasting error in either mode. -/
theorem filter_isLastingError_checkOrder
    (context : Context) :
    (checkOrder context).filter isLastingError = [] := by
  rw [List.filter_eq_nil_iff]
  intro issue member
  have isOrder := List.mem_singleton.mp (carryOrderCode_checkOrder context issue member)
  simp [isLastingError, isOrder]

/-- The errors that a rule finds in lenient mode are the lasting ones that it finds in strict
mode. -/
theorem filter_check_lenient
    {rule : Rule}
    (isRule : rule ∈ allRules)
    (rules : TemplateRules)
    (document : Document) :
    (rule.check ⟨rules, document, false⟩).filter Issue.isError =
      (rule.check ⟨rules, document, true⟩).filter isLastingError := by
  rcases order_or_isSteady isRule with isOrder | steady
  · rw [isOrder, filter_isError_checkOrder, filter_isLastingError_checkOrder]
  · rw [steady.congr rules false true ⟨rfl, rfl, rfl⟩, filter_isLastingError (steady.codes _)]

/-- An issue is an error or a warning. -/
theorem isWarning_eq_not_isError
    (issue : Issue) :
    issue.isWarning = !issue.isError := by
  cases isSevere : issue.severity <;> simp [Issue.isWarning, Issue.isError, isSevere]

end Validation

namespace Document

/-- Lenient validation lists the lasting errors of strict validation. -/
theorem validate_lenient
    (document : Document)
    (rules : TemplateRules) :
    document.validate rules false = (document.validate rules true).filter isLastingError := by
  simp only [validate, Bool.false_eq_true, if_false, if_true, findings, List.filter_flatMap]
  exact List.flatMap_congr fun _ isRule => filter_check_lenient isRule rules document

/-- The rules of a template find the same errors in either mode. -/
theorem filter_isError_issues
    (document : Document) :
    (document.issues true).filter Issue.isError = document.issues false := by
  have same := findings_congr (allowReordering_rules document.templateType)
    (⟨rfl, rfl, rfl⟩ : LooksAlike document document) true false
  simp only [issues, validate, Bool.false_eq_true, if_false, if_true, same]

/--
Lenient validation lists, in order, the strict findings that are errors and not about the order
of the blocks. For the template of a document the summary has the errors and the verdict of
lenient validation, and its errors and warnings are the strict findings, each kind in order.
-/
theorem summary_agrees
    (document : Document) :
    (∀ rules,
      document.validate rules false =
        (document.validate rules true).filter fun issue =>
          issue.severity = .error ∧ issue.code ≠ orderCode) ∧
      ∀ countsWarnings,
        let summary := ValidationSummary.ofDocument document countsWarnings
        summary.errors = document.issues false ∧
          summary.isValid = document.passes false ∧
            (summary.errors ++ summary.warnings).Perm (document.issues true) ∧
              summary.errors.Sublist (document.issues true) ∧
                summary.warnings.Sublist (document.issues true) := by
  constructor
  · intro rules
    rw [validate_lenient]
    refine List.filter_congr fun issue _ => ?_
    simp [isLastingError, Issue.isError]
  · intro countsWarnings
    have errors : (ValidationSummary.ofDocument document countsWarnings).errors =
        document.issues false :=
      filter_isError_issues document
    refine ⟨errors, ?_, ?_, List.filter_sublist, List.filter_sublist⟩
    · rw [ValidationSummary.isValid, errors, passes]
    · have apart : (document.issues true).filter Issue.isWarning =
          (document.issues true).filter fun issue => !issue.isError :=
        List.filter_congr fun issue _ => isWarning_eq_not_isError issue
      dsimp only [ValidationSummary.ofDocument]
      rw [apart]
      exact List.filter_append_perm Issue.isError (document.issues true)

end Document

end EmailComposer
