import EmailComposer.Template.Registry
import EmailComposer.Validation.Rule

namespace EmailComposer

/-!
# Validation

A document is validated by all rules at once. Outside strict mode only errors are
listed. The summary of a document keeps errors and warnings apart and never lets
the order of the blocks pass unnoticed.
-/

open EmailComposer.Json
open EmailComposer.Validation

namespace Document

/-- All findings about a document under some rules. -/
def findings (document : Document) (rules : TemplateRules) (strict : Bool) : List Issue :=
  allRules.flatMap fun rule => rule.check ⟨rules, document, strict⟩

/-- The issues with a document under some rules. -/
def validate (document : Document) (rules : TemplateRules) (strict : Bool) : List Issue :=
  let findings := document.findings rules strict
  if strict then
    findings
  else
    findings.filter Issue.isError

/-- The issues with a document under the rules of its template. -/
def issues (document : Document) (strict : Bool) : List Issue :=
  document.validate (Template.rules document.templateType) strict

/-- The document has no issues under the rules of its template. -/
def passes (document : Document) (strict : Bool) : Bool :=
  (document.issues strict).isEmpty

end Document

/-- Errors and warnings apart; warnings count only where that is asked for. -/
structure ValidationSummary where
  errors : List Issue
  warnings : List Issue
  countsWarnings : Bool
  deriving Repr, DecidableEq

namespace ValidationSummary

/-- The summary of a document. -/
def ofDocument (document : Document) (countsWarnings : Bool) : ValidationSummary :=
  let issues := document.issues true
  ⟨issues.filter Issue.isError, issues.filter Issue.isWarning, countsWarnings⟩

/-- There are no errors. -/
def isValid (summary : ValidationSummary) : Bool :=
  summary.errors.isEmpty

/-- The number of errors. -/
def errorCount (summary : ValidationSummary) : Nat :=
  summary.errors.length

/-- The number of warnings that count. -/
def warningCount (summary : ValidationSummary) : Nat :=
  if summary.countsWarnings then
    summary.warnings.length
  else
    0

/-- A summary as an object. -/
def dump (summary : ValidationSummary) : Value :=
  .object [("isValid", .boolean summary.isValid), ("errorCount", .integer summary.errorCount),
    ("warningCount", .integer summary.warningCount),
    ("errors", Issue.dumpAll summary.errors), ("warnings", Issue.dumpAll summary.warnings)]

end ValidationSummary

end EmailComposer
