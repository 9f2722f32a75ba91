import EmailComposer.Proofs.Service.Request

namespace EmailComposer.Service

/-!
# What rendering answers

A malformed body is a bad request. Otherwise unusable URLs come first, whatever the body
asks for; then, in strict mode, any issue at all; and only then an email is rendered.
-/

open EmailComposer.Text
open EmailComposer.Json
open EmailComposer.Composition

/-- The object that is answered for an issue. Only errors are answered. -/
def errorObject (issue : Issue) : Value :=
  .object
    [("code", .string issue.code), ("message", .string issue.message),
      ("severity", .string "error"), ("blockId", issue.blockId.elim .null .string),
      ("blockType", issue.blockType.elim .null fun type => .string type.name)]

/-- The refusal of an email: why, and the issues that are listed. -/
def refusalOf (message : Text) (issues : List Issue) : Response where
  status := 422
  body :=
    .json (.object
      [("error", .string message), ("issues", .array (issues.map errorObject))])

/-- The answer to a request to render a document composed from blocks. -/
structure IsRenderAnswer
    (settings : Settings)
    (members : Members)
    (read : List Block)
    (document : Document)
    (response : Response) : Prop where
  unsafeUrls :
    (∃ block ∈ read, block.hasUnusableUrl = true) →
    response =
      refusalOf "Email contains unsafe URLs" ((read.filter Block.hasUnusableUrl).map urlIssue)
  failed :
    (∀ block ∈ read, block.hasUnusableUrl = false) →
    ¬ IsOff members "strict" →
    document.validationErrors ≠ [] →
    response = refusalOf "Email failed validation" document.validationErrors
  rendered :
    (∀ block ∈ read, block.hasUnusableUrl = false) →
    (IsOff members "strict" ∨ document.validationErrors = []) →
    response = ⟨200, .html (document.render settings (isSet members "inlineCss"))⟩

section Issues

/-- An error is answered as its object. -/
theorem dump_eq_errorObject
    {issue : Issue}
    (isError : issue.severity = .error) :
    issue.dump = errorObject issue := by
  obtain ⟨code, message, severity, blockId, blockType⟩ := issue
  cases isError
  cases blockId with
  | none => cases blockType <;> rfl
  | some id => cases blockType <;> rfl

/-- Errors are answered as the list of their objects. -/
theorem dumpAll_eq
    {issues : List Issue}
    (areErrors : ∀ issue ∈ issues, issue.severity = .error) :
    Issue.dumpAll issues = .array (issues.map errorObject) :=
  congrArg Value.array
    (List.map_congr_left fun issue member => dump_eq_errorObject (areErrors issue member))

end Issues

section Cases

variable {settings : Settings} {payload : Payload} {document : Document}

theorem render_of_urlIssues
    (areErrors : ∀ issue ∈ document.validationErrors, issue.severity = .error)
    (hasIssue : urlIssues document ≠ []) :
    render settings payload document =
      refusalOf "Email contains unsafe URLs" (urlIssues document) := by
  have areUrlErrors : ∀ issue ∈ urlIssues document, issue.severity = .error :=
    fun issue member => areErrors issue (List.mem_of_mem_filter member)
  unfold render
  rw [if_pos (by simpa using hasIssue)]
  exact congrArg (Response.errorWith 422 _ "issues") (dumpAll_eq areUrlErrors)

theorem render_of_strict
    (areErrors : ∀ issue ∈ document.validationErrors, issue.severity = .error)
    (noIssue : urlIssues document = [])
    (isStrict : payload.strict = true)
    (notValid : document.isValid ≠ some true) :
    render settings payload document =
      refusalOf "Email failed validation" document.validationErrors := by
  unfold render
  rw [if_neg (by simp [noIssue]), if_pos (by simp [isStrict, notValid])]
  exact congrArg (Response.errorWith 422 _ "issues") (dumpAll_eq areErrors)

theorem render_of_accepted
    (noIssue : urlIssues document = [])
    (accepted : payload.strict = false ∨ document.isValid = some true) :
    render settings payload document =
      ⟨200, .html (document.render settings payload.inlineStyles)⟩ := by
  have notRefused : ¬ (payload.strict && document.isValid != some true) = true := by
    rcases accepted with notStrict | isValid
    · simp [notStrict]
    · simp [isValid]
  unfold render
  rw [if_neg (by simp [noIssue]), if_neg notRefused]

end Cases

section Composed

variable
  {settings : Settings}
  {members : Members}
  {template : TemplateType}
  {raw : List Value}
  {read : List Block}
  {document : Document}
  (isComposed : IsComposed settings members template raw read document)

include isComposed

/-- No URL issue is found exactly if every URL can be used. -/
theorem IsComposed.urlIssues_eq_nil_iff :
    Composition.urlIssues document = [] ↔ ∀ block ∈ read, block.hasUnusableUrl = false := by
  rw [isComposed.urlIssues]
  exact map_urlIssue_eq_nil_iff

/-- The document is valid exactly if nothing was recorded on it. -/
theorem IsComposed.isValid_iff :
    document.isValid = some true ↔ document.validationErrors = [] := by
  rw [isValid_of_compose isComposed.isOutcome]
  simp

/-- Rendering gives such an answer. -/
theorem IsComposed.isRenderAnswer
    (name : Text)
    (data : Value) :
    IsRenderAnswer settings members read document
      (render settings
        ⟨name, raw, data, isSet members "strict", isSet members "inlineCss"⟩ document) where
  unsafeUrls := by
    rintro ⟨block, member, unusable⟩
    have hasIssue : Composition.urlIssues document ≠ [] := by
      intro none
      rw [isComposed.urlIssues_eq_nil_iff.mp none block member] at unusable
      cases unusable
    rw [render_of_urlIssues (isError_of_mem_validationErrors isComposed.isOutcome) hasIssue,
      isComposed.urlIssues]
  failed := by
    intro usable isStrict hasErrors
    have isSet : isSet members "strict" = true := by
      rwa [← isSet_eq_false_iff, Bool.not_eq_false] at isStrict
    exact render_of_strict (isError_of_mem_validationErrors isComposed.isOutcome)
      (isComposed.urlIssues_eq_nil_iff.mpr usable) isSet (mt isComposed.isValid_iff.mp hasErrors)
  rendered := by
    intro usable accepted
    exact render_of_accepted (isComposed.urlIssues_eq_nil_iff.mpr usable)
      (accepted.imp isSet_eq_false_iff.mpr isComposed.isValid_iff.mpr)

/-- A page is answered only where every URL of the document can be used. -/
theorem IsComposed.usable_of_status
    {response : Response}
    (isAnswer : IsRenderAnswer settings members read document response)
    (isPage : response.status = 200) :
    ∀ block ∈ document.blocks, block.hasUnusableUrl = false := by
  intro block member
  rw [isComposed.blocks] at member
  obtain ⟨source, isSource, rfl⟩ := List.mem_map.mp member
  rw [Block.hasUnusableUrl_sanitizeContent, ← Bool.not_eq_true]
  intro unusable
  rw [isAnswer.unsafeUrls ⟨source, isSource, unusable⟩] at isPage
  cases isPage

end Composed

/-- What is answered to a request is never that the request is bad. -/
theorem IsRenderAnswer.status_ne
    {settings : Settings}
    {members : Members}
    {read : List Block}
    {document : Document}
    {response : Response}
    (isAnswer : IsRenderAnswer settings members read document response) :
    response.status ≠ 400 := by
  intro isBad
  by_cases unusable : ∃ block ∈ read, block.hasUnusableUrl = true
  · rw [isAnswer.unsafeUrls unusable] at isBad
    cases isBad
  · have usable : ∀ block ∈ read, block.hasUnusableUrl = false := by
      simpa using unusable
    by_cases accepted : IsOff members "strict" ∨ document.validationErrors = []
    · rw [isAnswer.rendered usable accepted] at isBad
      cases isBad
    · rw [not_or] at accepted
      rw [isAnswer.failed usable accepted.1 accepted.2] at isBad
      cases isBad

/--
A posted body is answered as a bad request exactly if it is malformed. Otherwise an email
is composed from it, and the answer depends on its URLs, then on strictness and its issues;
a page never shows an unusable URL.
-/
theorem handle_render
    (settings : Settings)
    (timestamp : Text)
    {payload : Value}
    (onlyObjects : HoldsOnlyObjects payload) :
    ∃ response,
      handle settings timestamp ⟨"/render", "POST", payload⟩ = .ok response ∧
        (response.status = 400 ↔ IsMalformed payload) ∧
          (¬ IsMalformed payload →
            ∃ members template raw read document,
              IsRequest payload members template raw read ∧
                IsComposed settings members template raw read document ∧
                  IsRenderAnswer settings members read document response ∧
                    (response.status = 200 →
                      ∀ block ∈ document.blocks, block.hasUnusableUrl = false)) := by
  have routed : handle settings timestamp ⟨"/render", "POST", payload⟩ =
      withDocument settings ⟨"/render", "POST", payload⟩ (render settings) :=
    rfl
  by_cases isMalformed : IsMalformed payload
  · obtain ⟨response, isOutcome, isBad⟩ :
        ∃ response,
          withDocument settings ⟨"/render", "POST", payload⟩ (render settings) = .ok response ∧
            response.status = 400 :=
      isMalformed.withDocument_eq onlyObjects settings rfl (render settings)
    exact ⟨response, routed.trans isOutcome, iff_of_true isBad isMalformed,
      fun wellFormed => absurd isMalformed wellFormed⟩
  · obtain ⟨members, template, raw, read, isRequest⟩ := exists_isRequest isMalformed
    obtain ⟨document, isComposed⟩ := isRequest.exists_isComposed settings
    have isAnswer := isComposed.isRenderAnswer template.name (personalData members)
    exact ⟨_, routed.trans (isRequest.withDocument_eq isComposed rfl _),
      iff_of_false isAnswer.status_ne isMalformed, fun _ =>
        ⟨members, template, raw, read, document, isRequest, isComposed, isAnswer,
          isComposed.usable_of_status isAnswer⟩⟩

/-- A body with a button whose address would run a script. -/
def scriptMembers : Members :=
  [("templateType", .string "newsletter"), ("blocks", .array [scriptButton])]

/-- That button. -/
def scriptBlock : Block :=
  .button ⟨"1", "<b>1 < 2</b>", "javascript:alert(1)", none, none, none, none, none, none, none⟩

/-- It is refused with one issue, although the body does not ask to be strict. -/
theorem handle_render_of_scriptButton :
    HoldsOnlyObjects (.object scriptMembers) ∧ ¬ IsMalformed (.object scriptMembers) ∧
      ∀ settings timestamp,
        handle settings timestamp ⟨"/render", "POST", .object scriptMembers⟩ =
          .ok ⟨422, .json (.object
            [("error", .string "Email contains unsafe URLs"),
              ("issues", .array [.object
                [("code", .string "BLOCK_SANITIZATION_FAILED"),
                  ("message", .string
                    "Invalid URL in button in block '1': 'javascript:alert(1)'"),
                  ("severity", .string "error"), ("blockId", .string "1"),
                  ("blockType", .string "button")]])])⟩ := by
  have holdsBlocks : scriptMembers.get? "blocks" = some (.array [scriptButton]) := rfl
  have isRead : Block.read scriptButton = .valid scriptBlock := rfl
  have unusable : scriptBlock.hasUnusableUrl = true := by decide +kernel
  have onlyObjects : HoldsOnlyObjects (.object scriptMembers) := by
    intro members blocks isObject areBlocks raw isBlock
    cases isObject
    cases holdsBlocks.symm.trans areBlocks
    rw [List.mem_singleton.mp isBlock]
    exact ⟨_, rfl⟩
  have isRequest : IsRequest (.object scriptMembers) scriptMembers .newsletter [scriptButton]
      [scriptBlock] :=
    ⟨rfl, rfl, holdsBlocks, .cons isRead .nil, trivial⟩
  refine ⟨onlyObjects, isRequest.not_isMalformed, fun settings timestamp => ?_⟩
  obtain ⟨response, isOutcome, _, answered⟩ := handle_render settings timestamp onlyObjects
  obtain ⟨members, template, raw, read, document, found, _, isAnswer, _⟩ :=
    answered isRequest.not_isMalformed
  -- The parts that the theorem speaks of are the ones named here.
  cases found.isObject
  cases holdsBlocks.symm.trans found.holdsBlocks
  have isSame : read = [scriptBlock] := by
    obtain ⟨block, others, isBlock, noOthers, rfl⟩ :=
      List.forall₂_cons_left_iff.mp found.readsBlocks
    cases isRead.symm.trans isBlock
    rw [List.forall₂_nil_left_iff.mp noOthers]
  subst isSame
  rw [isOutcome, isAnswer.unsafeUrls ⟨scriptBlock, by simp, unusable⟩,
    List.filter_cons_of_pos unusable]
  rfl

end EmailComposer.Service
