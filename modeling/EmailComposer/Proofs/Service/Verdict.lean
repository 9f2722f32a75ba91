import EmailComposer.Proofs.Composition.Agreement
import EmailComposer.Proofs.Service.Render

namespace EmailComposer.Service

/-!
# Verdicts of the service

Validating and reporting give the verdict of the summary, rendering in strict mode that of
the composition. They are one verdict unless a URL cannot be used that begins like a usable
one.
-/

open EmailComposer.Text
open EmailComposer.Json
open EmailComposer.Composition

/-- The answer to a request to validate says that the email is valid. -/
def SaysValid (response : Response) : Prop :=
  ∃ members : Members,
    response.body = .json (.object members) ∧ members.get? "isValid" = some (.boolean true)

/-- The lines of a report above the one with the verdict. -/
def reportHead (document : Document) : List Text :=
  ["EMAIL VALIDATION REPORT", ValidationReport.line,
    "Template Type:  " ++ document.templateType.name]

/-- A report up to the end of the line with the verdict. -/
def reportStart (document : Document) (verdict : Text) : Text :=
  (reportHead document).flatMap (· ++ ['\n']) ++ ("Status:         " ++ verdict ++ ['\n'])

/-- The report on a document says that it is valid. -/
def ReportsValid (document : Document) : Prop :=
  reportStart document "VALID" <+: ValidationReport.ofDocument document

section Put

variable {members : Members} {key other : Text} {value : Value}

theorem get?_put_self :
    (members.put key value).get? key = some value := by
  induction members with
  | nil => simp [Members.put, Members.get?]
  | cons first rest inductionHypothesis =>
      by_cases same : first.1 = key
      · simp [Members.put, Members.get?, same]
      · simpa [Members.put, Members.get?, same] using inductionHypothesis

theorem get?_put_of_ne
    (different : other ≠ key) :
    (members.put key value).get? other = members.get? other := by
  induction members with
  | nil => simp [Members.put, Members.get?, different.symm]
  | cons first rest inductionHypothesis =>
      by_cases same : first.1 = key
      · simp [Members.put, Members.get?, same, different.symm]
      · by_cases found : first.1 = other
        · simp [Members.put, Members.get?, found, different]
        · simpa [Members.put, Members.get?, same, found] using inductionHypothesis

end Put

section Strict

variable
  {members : Members}
  {template : TemplateType}
  {raw : List Value}
  {read : List Block}

/-- The same body in strict mode. -/
def strictly (members : Members) : Members :=
  members.put "strict" (.boolean true)

theorem personalData_strictly :
    personalData (strictly members) = personalData members := by
  rw [personalData, strictly, get?_put_of_ne (by decide), personalData]

/-- A request stays a request in strict mode. -/
theorem IsRequest.strictly
    (isRequest : IsRequest (.object members) members template raw read) :
    IsRequest (.object (strictly members)) (Service.strictly members) template raw read where
  isObject := rfl
  namesTemplate := by
    rw [Service.strictly, get?_put_of_ne (by decide)]
    exact isRequest.namesTemplate
  holdsBlocks := by
    rw [Service.strictly, get?_put_of_ne (by decide)]
    exact isRequest.holdsBlocks
  readsBlocks := isRequest.readsBlocks
  holdsData := by
    rw [personalData_strictly]
    exact isRequest.holdsData

end Strict

/-- Joined lines begin with all of the first ones. -/
theorem exists_joinWith_append_cons
    (lines : List Text)
    (last : Text)
    (rest : List Text) :
    ∃ tail,
      joinWith "\n" (lines ++ last :: rest) ++ "\n" =
        lines.flatMap (· ++ ['\n']) ++ (last ++ ['\n']) ++ tail := by
  unfold joinWith
  induction lines with
  | nil =>
      cases rest with
      | nil => exact ⟨[], by simp⟩
      | cons next others =>
          exact ⟨List.intercalate ['\n'] (next :: others) ++ ['\n'],
            by simp [List.intercalate_cons_cons]⟩
  | cons first others inductionHypothesis =>
      obtain ⟨tail, shape⟩ := inductionHypothesis
      obtain ⟨next, more, isMore⟩ : ∃ next more, others ++ last :: rest = next :: more := by
        cases others <;> simp
      refine ⟨tail, ?_⟩
      rw [List.cons_append, List.flatMap_cons, isMore, List.intercalate_cons_cons, ← isMore,
        List.append_assoc, shape]
      simp

/-- A report begins with the verdict of the summary. -/
theorem exists_report_eq
    (document : Document) :
    ∃ tail,
      ValidationReport.ofDocument document =
        reportStart document
            (if (ValidationSummary.ofDocument document true).isValid then "VALID"
              else "INVALID" : Text) ++ tail := by
  obtain ⟨rest, lines⟩ : ∃ rest,
      ValidationReport.ofDocument document =
        joinWith "\n"
          (reportHead document ++
            ("Status:         " ++
              (if (ValidationSummary.ofDocument document true).isValid then "VALID"
                else "INVALID" : Text)) :: rest) ++ "\n" :=
    ⟨_, rfl⟩
  obtain ⟨tail, shape⟩ := exists_joinWith_append_cons (reportHead document) _ rest
  exact ⟨tail, lines.trans shape⟩

theorem reportsValid_iff
    (document : Document) :
    ReportsValid document ↔ (ValidationSummary.ofDocument document true).isValid = true := by
  obtain ⟨rest, report⟩ := exists_report_eq document
  rw [ReportsValid, report, reportStart, reportStart]
  simp only [List.append_assoc, List.prefix_append_right_inj]
  cases (ValidationSummary.ofDocument document true).isValid with
  | true => simp
  | false => simp

/-- The answer to a request to validate gives the verdict of the summary. -/
theorem saysValid_validate_iff
    (payload : Payload)
    (document : Document) :
    SaysValid (validate payload document) ↔
      (ValidationSummary.ofDocument document true).isValid = true := by
  constructor
  · rintro ⟨members, isBody, isTrue⟩
    cases isBody
    exact Value.boolean.inj (Option.some.inj isTrue)
  · intro isValid
    refine ⟨_, rfl, ?_⟩
    exact congrArg (fun verdict => some (Value.boolean verdict)) isValid

/-- In strict mode a page is the answer exactly for valid documents. -/
theorem IsComposed.status_eq_iff
    {settings : Settings}
    {members : Members}
    {template : TemplateType}
    {raw : List Value}
    {read : List Block}
    {document : Document}
    {response : Response}
    (isComposed : IsComposed settings members template raw read document)
    (isAnswer : IsRenderAnswer settings members read document response)
    (isStrict : ¬ IsOff members "strict") :
    response.status = 200 ↔ document.isValid = some true := by
  rw [isComposed.isValid_iff]
  constructor
  · intro isPage
    have noIssue := (Composition.urlIssues_eq_nil_iff isComposed.isOutcome).mpr
      (isComposed.usable_of_status isAnswer isPage)
    by_contra hasErrors
    have refused := isAnswer.failed (isComposed.urlIssues_eq_nil_iff.mp noIssue) isStrict hasErrors
    rw [refused] at isPage
    cases isPage
  · intro noErrors
    have noIssue : Composition.urlIssues document = [] := by
      rw [Composition.urlIssues, noErrors, List.filter_nil]
    rw [isAnswer.rendered (isComposed.urlIssues_eq_nil_iff.mp noIssue) (.inr noErrors)]

/--
Rendering in strict mode gives a page exactly for valid documents, and a report says what
validating says. A document is valid exactly if validating says so and each of its URLs can
be used; what validating passes over are URLs that begin like usable ones.
-/
theorem verdicts_of_request
    (settings : Settings)
    (timestamp : Text)
    {members : Members}
    {template : TemplateType}
    {raw : List Value}
    {read : List Block}
    (isRequest : IsRequest (.object members) members template raw read) :
    ∃ document validated rendered,
      compose settings (.string template.name) (.array raw) (personalData members) =
          .ok document ∧
        handle settings timestamp ⟨"/validate", "POST", .object members⟩ = .ok validated ∧
          handle settings timestamp ⟨"/render", "POST", .object (strictly members)⟩ =
              .ok rendered ∧
            (rendered.status = 200 ↔ document.isValid = some true) ∧
              (ReportsValid document ↔ SaysValid validated) ∧
                (document.isValid = some true ↔
                  SaysValid validated ∧
                    ∀ block ∈ document.blocks, block.hasUnusableUrl = false) ∧
                  (SaysValid validated →
                    ∀ block ∈ document.blocks, beginsLikeUrl block = true) := by
  obtain ⟨document, isComposed⟩ := isRequest.exists_isComposed settings
  have composed := isComposed.isOutcome
  have inStrictMode : IsComposed settings (strictly members) template raw read document := by
    refine ⟨?_, isComposed.blocks, isComposed.urlIssues⟩
    rw [personalData_strictly]
    exact composed
  have isStrict : ¬ IsOff (strictly members) "strict" := by
    intro isOff
    cases isOff (.boolean true) get?_put_self
  have isAnswer := inStrictMode.isRenderAnswer template.name (personalData (strictly members))
  obtain ⟨isValid, begins⟩ := isValid_iff_of_compose composed true
  have validates : handle settings timestamp ⟨"/validate", "POST", .object members⟩ = _ :=
    isRequest.withDocument_eq isComposed rfl validate
  have renders : handle settings timestamp ⟨"/render", "POST", .object (strictly members)⟩ = _ :=
    isRequest.strictly.withDocument_eq inStrictMode rfl (render settings)
  refine ⟨document, _, _, composed, validates, renders,
    inStrictMode.status_eq_iff isAnswer isStrict, ?_, ?_, ?_⟩
  · rw [reportsValid_iff, saysValid_validate_iff]
  · rw [saysValid_validate_iff]
    exact isValid
  · rw [saysValid_validate_iff]
    exact begins

/-- The body of a request for a notice with a button whose URL names no host. -/
def noHostMembers : Members :=
  [("templateType", .string "close-fund"), ("blocks", .array noHostBlocks)]

/-- Validating and reporting let it pass, rendering refuses it. -/
theorem verdicts_of_noHost :
    ∃ settings timestamp document validated rendered,
      compose settings (.string "close-fund") (.array noHostBlocks) .null = .ok document ∧
        handle settings timestamp ⟨"/validate", "POST", .object noHostMembers⟩ = .ok validated ∧
          handle settings timestamp ⟨"/render", "POST", .object (strictly noHostMembers)⟩ =
              .ok rendered ∧
            SaysValid validated ∧ ReportsValid document ∧ rendered.status ≠ 200 := by
  obtain ⟨settings, document, composed, isRefused, isPassed⟩ := exists_noHostDocument
  obtain ⟨read, isRequest⟩ : ∃ read,
      IsRequest (.object noHostMembers) noHostMembers .closeFund noHostBlocks read :=
    ⟨_, rfl, rfl, rfl, .cons rfl (.cons rfl (.cons rfl .nil)), trivial⟩
  obtain ⟨same, validated, rendered, composedAgain, validates, renders, isPage, reports, _, _⟩ :=
    verdicts_of_request settings "now" isRequest
  cases composed.symm.trans composedAgain
  have reportsValid := (reportsValid_iff document).mpr isPassed
  refine ⟨settings, "now", document, validated, rendered, composed, validates, renders,
    reports.mp reportsValid, reportsValid, fun isGiven => ?_⟩
  rw [isPage.mp isGiven] at isRefused
  cases isRefused

end EmailComposer.Service
