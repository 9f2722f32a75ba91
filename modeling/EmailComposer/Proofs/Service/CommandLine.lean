import EmailComposer.Proofs.Composition.Agreement
import EmailComposer.Proofs.Service.Render
import EmailComposer.Service.CommandLine

namespace EmailComposer.CommandLine

/-!
# The command line and the web service

Both ways of rendering compose the same document from a payload, look for the issues with
its URLs and only then render it. The command line knows no strict mode, so the two agree on
payloads that do not ask for it. A run that breaks off leaves the exit status of a refusal and
prints as little, so its process does not tell one from the other.
-/

open EmailComposer.Text
open EmailComposer.Json
open EmailComposer.Composition
open EmailComposer.Service

/-- A payload that both ways of rendering take: it names some template, holds a list of
blocks and nothing or an object as personal data, and does not ask to be strict. -/
structure IsShared (members : Members) (name : Text) (raw : List Value) : Prop where
  namesTemplate : members.get? "templateType" = some (.string name)
  hasName : name ≠ []
  holdsBlocks : members.get? "blocks" = some (.array raw)
  holdsData : personalData members = .null ∨ ∃ entries, personalData members = .object entries
  notStrict : IsOff members "strict"

/-- The line that is told about an issue: its code in brackets, and its wording. -/
def toldLine (issue : Issue) : Text :=
  "[" ++ issue.code ++ "] " ++ issue.message ++ "\n"

/-- What a run leaves behind and what the service answers, side by side. -/
inductive Corresponds : Except Failure Outcome → Except ComposeError Response → Prop where
  /-- The page is printed as it is answered. -/
  | rendered
      (page lines : Text) :
      Corresponds (.ok ⟨some 0, page ++ "\n", lines⟩) (.ok ⟨200, .html page⟩)
  /-- The answered issues are told, and then those that are not about URLs. -/
  | refused
      {issues others : List Issue}
      (areAbout : ∀ issue ∈ issues, issue.code = "BLOCK_SANITIZATION_FAILED")
      (areNotAbout : ∀ issue ∈ others, issue.code ≠ "BLOCK_SANITIZATION_FAILED") :
      Corresponds (.ok ⟨some 1, [], (issues ++ others).flatMap toldLine⟩)
        (.ok (refusalOf "Email contains unsafe URLs" issues))
  /-- Nothing is composed: the run breaks off with the failure that the service reports. -/
  | failed
      (error : ComposeError) :
      Corresponds (.error (.compose error)) (refusal error)

section Composed

variable
  {settings : Settings}
  {members : Members}
  {name : Text}
  {raw : List Value}
  (isShared : IsShared members name raw)

include isShared

/-- The command line composes from the parts that the service reads. -/
theorem IsShared.composePayload_eq :
    composePayload settings members =
      (compose settings (.string name) (.array raw) (personalData members)).mapError .compose := by
  simp only [composePayload, isShared.namesTemplate, isShared.holdsBlocks, Option.getD_some,
    personalData]

/-- The parts that the service reads. -/
theorem IsShared.readPayload_eq :
    Service.readPayload (.object members) =
      .ok ⟨name, raw, personalData members, isSet members "strict", isSet members "inlineCss"⟩ :=
  readPayload_of_members isShared.namesTemplate isShared.hasName isShared.holdsBlocks
    isShared.holdsData

/-- Where composing fails, both fail by the same error. -/
theorem IsShared.corresponds_of_error
    {error : ComposeError}
    (fails :
      compose settings (.string name) (.array raw) (personalData members) = .error error) :
    Corresponds (render settings (.object members))
      (withDocument settings ⟨"/render", "POST", .object members⟩ (Service.render settings)) := by
  have composes : composePayload settings members = .error (.compose error) := by
    rw [isShared.composePayload_eq, fails]
    rfl
  have breaksOff : render settings (.object members) = .error (.compose error) := by
    simp only [render, payloadMembers, composes, bind, Except.bind]
  rw [breaksOff, withDocument_of_error isShared.readPayload_eq fails]
  exact .failed error

/-- Of a composed document both look at the issues with its URLs. -/
theorem IsShared.corresponds_of_document
    {document : Document}
    (composed :
      compose settings (.string name) (.array raw) (personalData members) = .ok document) :
    Corresponds (render settings (.object members))
      (withDocument settings ⟨"/render", "POST", .object members⟩ (Service.render settings)) := by
  have composes : composePayload settings members = .ok document := by
    rw [isShared.composePayload_eq, composed]
    rfl
  have runs : render settings (.object members) =
      if (urlIssues document).isEmpty then
        .ok ⟨some 0, document.render settings (isSet members "inlineCss") ++ "\n",
          document.validationErrors.flatMap issueLine⟩
      else
        .ok ⟨some 1, [], document.validationErrors.flatMap issueLine⟩ := by
    simp only [render, payloadMembers, composes, bind, Except.bind]
    rfl
  rw [runs, withDocument_of_ok isShared.readPayload_eq composed]
  by_cases noIssue : urlIssues document = []
  · rw [render_of_accepted noIssue (.inl (isSet_eq_false_iff.mpr isShared.notStrict)),
      if_pos (by simp [noIssue])]
    exact .rendered _ _
  · obtain ⟨others, recorded, areNotAbout⟩ := exists_validationErrors_of_compose composed
    have areAbout : ∀ issue ∈ urlIssues document, issue.code = urlIssueCode := by
      intro issue member
      exact of_decide_eq_true (List.mem_filter.mp member).2
    rw [render_of_urlIssues (isError_of_mem_validationErrors composed) noIssue,
      if_neg (by simpa using noIssue), recorded]
    exact .refused areAbout areNotAbout

/-- Whatever becomes of a shared payload, the two correspond. -/
theorem IsShared.corresponds
    (settings : Settings) :
    Corresponds (render settings (.object members))
      (withDocument settings ⟨"/render", "POST", .object members⟩ (Service.render settings)) := by
  cases outcome : compose settings (.string name) (.array raw) (personalData members) with
  | ok document => exact isShared.corresponds_of_document outcome
  | error error => exact isShared.corresponds_of_error outcome

end Composed

/-- A run agrees with an answer: it comes to its end with exit code zero exactly if a page is
answered, and prints that page; it comes to its end with exit code one and prints nothing exactly
if the answer refuses the email, and tells first what the answer lists; and it breaks off exactly
if nothing or a bad request is answered.

The process of a run shows less. It ends with status zero exactly if a page is answered; otherwise
it ends with status one and prints nothing, also where the run breaks off. -/
structure Agrees
    (run : Except Failure Outcome)
    (answer : Except ComposeError Response) : Prop where
  accepts :
    (∃ outcome, run = .ok outcome ∧ outcome.exitCode = some 0) ↔
      ∃ response, answer = .ok response ∧ response.status = 200
  prints :
    ∀ response,
      answer = .ok response → response.status = 200 →
        ∃ page, response.body = .html page ∧ printed run = page ++ "\n"
  refuses :
    (∃ outcome, run = .ok outcome ∧ outcome.exitCode = some 1 ∧ outcome.stdout = []) ↔
      ∃ response, answer = .ok response ∧ response.status = 422
  tells :
    ∀ response,
      answer = .ok response → response.status = 422 →
        ∃ issues others,
          response = refusalOf "Email contains unsafe URLs" issues ∧
            told run = (issues ++ others).flatMap toldLine ∧
              (∀ issue ∈ issues, issue.code = "BLOCK_SANITIZATION_FAILED") ∧
                ∀ issue ∈ others, issue.code ≠ "BLOCK_SANITIZATION_FAILED"
  breaksOff :
    (∃ failure, run = .error failure) ↔
      ∀ response, answer = .ok response → response.status = 400
  endsWell :
    exitStatus run = 0 ↔ ∃ response, answer = .ok response ∧ response.status = 200
  endsBadly :
    exitStatus run = 1 ∧ printed run = [] ↔
      ¬ ∃ response, answer = .ok response ∧ response.status = 200

/-- A refusal for an error of composing is a bad request. -/
theorem status_of_refusal
    {error : ComposeError}
    {response : Response}
    (refuses : refusal error = .ok response) :
    response.status = 400 := by
  cases error with
  | template error => cases refuses; rfl
  | invalid faults => cases refuses; rfl
  | noBlockList typeName => cases refuses
  | noBlock typeName => cases refuses
  | rejected rejection => cases refuses

/-- What corresponds agrees. -/
theorem Corresponds.agrees
    {run : Except Failure Outcome}
    {answer : Except ComposeError Response}
    (corresponds : Corresponds run answer) :
    Agrees run answer := by
  cases corresponds with
  | rendered page lines =>
      constructor
      case accepts => exact iff_of_true ⟨_, rfl, rfl⟩ ⟨_, rfl, rfl⟩
      case prints =>
        rintro _ ⟨⟩ _
        exact ⟨page, rfl, rfl⟩
      case refuses => simp
      case tells =>
        rintro _ ⟨⟩ isRefused
        cases isRefused
      case breaksOff => simp
      case endsWell => exact iff_of_true rfl ⟨_, rfl, rfl⟩
      case endsBadly => simp [exitStatus]
  | @refused issues others areAbout areNotAbout =>
      constructor
      case accepts => simp [refusalOf]
      case prints =>
        rintro _ ⟨⟩ isPage
        cases isPage
      case refuses => exact iff_of_true ⟨_, rfl, rfl, rfl⟩ ⟨_, rfl, rfl⟩
      case tells =>
        rintro _ ⟨⟩ _
        exact ⟨issues, others, rfl, rfl, areAbout, areNotAbout⟩
      case breaksOff => simp [refusalOf]
      case endsWell => simp [exitStatus, refusalOf]
      case endsBadly => simp [exitStatus, printed, refusalOf]
  | failed error =>
      have isBad : ∀ response, refusal error = .ok response → response.status = 400 :=
        fun _ => status_of_refusal
      constructor
      case accepts => simp +contextual [isBad]
      case prints =>
        intro response isAnswered isPage
        cases (isBad response isAnswered).symm.trans isPage
      case refuses => simp +contextual [isBad]
      case tells =>
        intro response isAnswered isRefused
        cases (isBad response isAnswered).symm.trans isRefused
      case breaksOff => exact iff_of_true ⟨_, rfl⟩ isBad
      case endsWell => simp +contextual [exitStatus, isBad]
      case endsBadly => simp +contextual [exitStatus, printed, isBad]

/--
A run over a file with a shared payload agrees with the answer to the same payload when it is
posted to be rendered. It refuses exactly what the service refuses; the exit status of its process
is that of a refusal for what breaks off as well.
-/
theorem run_agrees
    {environment : Environment}
    {content : Text}
    {members : Members}
    {name : Text}
    {raw : List Value}
    (settings : Settings)
    (timestamp : Text)
    (notServing : isServing environment = false)
    (holdsPayload : readPayload content = .ok (.object members))
    (isShared : IsShared members name raw) :
    Agrees (run environment settings 1 (readPayload content))
      (handle settings timestamp ⟨"/render", "POST", .object members⟩) := by
  have runs : run environment settings 1 (readPayload content) =
      render settings (.object members) := by
    simp only [run, notServing, holdsPayload, Bool.false_eq_true, if_true, if_false]
    rfl
  have routed : handle settings timestamp ⟨"/render", "POST", .object members⟩ =
      withDocument settings ⟨"/render", "POST", .object members⟩ (Service.render settings) :=
    rfl
  rw [runs, routed]
  exact (isShared.corresponds settings).agrees

/-- A file with a payload whose only button would run a script. -/
def scriptContent : Text :=
  "\x7b\"templateType\": \"newsletter\", \"blocks\": [\x7b\"type\": \"button\", \"id\": \"1\", " ++
    "\"label\": \"<b>1 < 2</b>\", \"href\": \"javascript:alert(1)\"\x7d]\x7d\n"

/-- The service refuses it, and the run agrees. -/
theorem run_agrees_of_scriptContent :
    ∃ settings response,
      Settings.read ⟨[]⟩ = .ok settings ∧
        readPayload scriptContent = .ok (.object scriptMembers) ∧
          handle settings "now" ⟨"/render", "POST", .object scriptMembers⟩ = .ok response ∧
            response.status = 422 ∧
              Agrees (run ⟨[]⟩ settings 1 (readPayload scriptContent))
                (handle settings "now" ⟨"/render", "POST", .object scriptMembers⟩) := by
  have holdsPayload : readPayload scriptContent = .ok (.object scriptMembers) := by
    cbv
  have isShared : IsShared scriptMembers "newsletter" [scriptButton] :=
    ⟨rfl, by decide, rfl, .inl rfl, isSet_eq_false_iff.mp rfl⟩
  have computed : ((Settings.read ⟨[]⟩).toOption.bind fun settings =>
      (handle settings "now" ⟨"/render", "POST", .object scriptMembers⟩).toOption).map
        Response.status = some 422 := by
    decide +kernel
  obtain ⟨response, isAnswered, isRefused⟩ := Option.map_eq_some_iff.mp computed
  obtain ⟨settings, isRead, isOutcome⟩ := Option.bind_eq_some_iff.mp isAnswered
  exact ⟨settings, response, toOption_eq_some_iff.mp isRead, holdsPayload,
    toOption_eq_some_iff.mp isOutcome, isRefused,
    run_agrees settings "now" rfl holdsPayload isShared⟩

end EmailComposer.CommandLine
