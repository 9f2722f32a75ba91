import EmailComposer.Validation.Summary

namespace EmailComposer

/-!
# Validation reports

A report is the summary of a document as plain text for a person to read.
-/

open EmailComposer.Text

namespace ValidationReport

/-- A horizontal rule of the width of a report. -/
def line : Text :=
  List.replicate 56 '─'

/-- The lines about one error. -/
def errorLines (issue : Issue) : List Text :=
  let place : List Text :=
    match issue.blockId with
    | none => []
    | some [] => []
    | some id => ["  Block: " ++ id]
  ["  [" ++ issue.code ++ "]", "  " ++ issue.message] ++ place ++ [[]]

/-- The lines about one warning. -/
def warningLines (issue : Issue) : List Text :=
  ["  [" ++ issue.code ++ "]", "  " ++ issue.message, []]

/-- A headed part of a report, left out if there is nothing in it. -/
def part (heading : Text) (count : Nat) (issues : List Issue) (lines : Issue → List Text) :
    List Text :=
  if issues.isEmpty then
    []
  else
    [heading ++ " (" ++ ofNat count ++ "):", line] ++ issues.flatMap lines

/-- The lines at the top of a report. -/
def head (document : Document) (summary : ValidationSummary) : List Text :=
  let status : Text := if summary.isValid then "VALID" else "INVALID"
  ["EMAIL VALIDATION REPORT", line, "Template Type:  " ++ document.templateType.name,
    "Status:         " ++ status, "Blocks:         " ++ ofNat document.blocks.length,
    "Errors:         " ++ ofNat summary.errorCount,
    "Warnings:       " ++ ofNat summary.warningCount, []]

/-- The report on a document. -/
def ofDocument (document : Document) : Text :=
  let summary := ValidationSummary.ofDocument document true
  let verdict : List Text := if summary.isValid then ["All validation checks passed!"] else []
  let lines :=
    head document summary ++ part "ERRORS" summary.errorCount summary.errors errorLines ++
      part "WARNINGS" summary.warningCount summary.warnings warningLines ++ verdict
  joinWith "\n" lines ++ "\n"

end ValidationReport

end EmailComposer
