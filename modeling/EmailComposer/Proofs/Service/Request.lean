import EmailComposer.Proofs.Composition.UrlIssue
import EmailComposer.Service.Handler

namespace EmailComposer.Service

/-!
# Request bodies

A request body is malformed, or an email is composed from it. A malformed body is answered as
a bad request, with one exception: composing breaks off at an element of the blocks that is
no object, if nothing before it is wrong, and then there is no answer.
-/

open EmailComposer.Text
open EmailComposer.Json
open EmailComposer.Schema
open EmailComposer.Composition

/-- The blocks of a request body are objects, when they are a list. -/
def HoldsOnlyObjects (payload : Value) : Prop :=
  ∀ (members : Members) blocks,
    payload = .object members →
    members.get? "blocks" = some (.array blocks) →
    ∀ raw ∈ blocks, ∃ fields, raw = .object fields

/-- The personal data among the members of a request body, nothing if it is left out. -/
def personalData (members : Members) : Value :=
  (members.get? "personalizationVariables").getD .null

/-- A value that counts as false: nothing, false itself, a zero or what is empty. -/
inductive IsFalsy : Value → Prop where
  | null : IsFalsy .null
  | boolean : IsFalsy (.boolean false)
  | integer : IsFalsy (.integer 0)
  | float
      {value : Binary64}
      {negative : Bool}
      {exponent : Int}
      (isZero : value.shape = .finite negative 0 exponent) :
      IsFalsy (.float value)
  | string : IsFalsy (.string [])
  | array : IsFalsy (.array [])
  | object : IsFalsy (.object [])

/-- A switch among the members of a request body is off: it is left out, or its value counts as
false. -/
def IsOff (members : Members) (key : Text) : Prop :=
  ∀ value, members.get? key = some value → IsFalsy value

/-- No email can be composed from a request body, and why. -/
inductive IsMalformed : Value → Prop where
  | noObject
      {payload : Value}
      (notObject : ∀ members, payload ≠ .object members) :
      IsMalformed payload
  | noTemplate
      {members : Members}
      (unregistered :
        ∀ template : TemplateType, members.get? "templateType" ≠ some (.string template.name)) :
      IsMalformed (.object members)
  | noBlockList
      {members : Members}
      (noList : ∀ blocks, members.get? "blocks" ≠ some (.array blocks)) :
      IsMalformed (.object members)
  | noPersonalData
      {members : Members}
      (noData : ¬ IsPersonalData (personalData members)) :
      IsMalformed (.object members)
  | invalidBlock
      {members : Members}
      {blocks : List Value}
      {raw : Value}
      {faults : List Fault}
      (areBlocks : members.get? "blocks" = some (.array blocks))
      (isBlock : raw ∈ blocks)
      (fails : Block.read raw = .invalid faults) :
      IsMalformed (.object members)

/-- Composing an email from a request body breaks off at an element of its blocks that is no
object: the body has the right shape, its template is registered, and nothing is wrong with
the blocks before that element. -/
structure BreaksOff
    (payload : Value)
    (members : Members)
    (template : TemplateType)
    (raw : List Value)
    (typeName : Text) : Prop where
  isObject : payload = .object members
  namesTemplate : members.get? "templateType" = some (.string template.name)
  holdsBlocks : members.get? "blocks" = some (.array raw)
  holdsData : personalData members = .null ∨ ∃ entries, personalData members = .object entries
  stops : StopsAtNoObject raw typeName

/-- What an email is composed from: the members of a request body, the template that they
name, and the raw and the read blocks. -/
structure IsRequest
    (payload : Value)
    (members : Members)
    (template : TemplateType)
    (raw : List Value)
    (read : List Block) : Prop where
  isObject : payload = .object members
  namesTemplate : members.get? "templateType" = some (.string template.name)
  holdsBlocks : members.get? "blocks" = some (.array raw)
  readsBlocks : List.Forall₂ (fun source block => Block.read source = .valid block) raw read
  holdsData : IsPersonalData (personalData members)

/-- The body is turned into a document with the read blocks in it, their text sanitized. -/
structure IsComposed
    (settings : Settings)
    (members : Members)
    (template : TemplateType)
    (raw : List Value)
    (read : List Block)
    (document : Document) : Prop where
  isOutcome :
    compose settings (.string template.name) (.array raw) (personalData members) = .ok document
  blocks : document.blocks = read.map Block.sanitizeContent
  urlIssues : urlIssues document = (read.filter Block.hasUnusableUrl).map urlIssue

theorem isTruthy_eq_false_iff
    {value : Value} :
    value.isTruthy = false ↔ IsFalsy value := by
  constructor
  · intro isFalse
    cases value with
    | null => exact .null
    | boolean value => cases isFalse; exact .boolean
    | integer value =>
        obtain rfl : value = 0 := by simpa [Value.isTruthy] using isFalse
        exact .integer
    | float value =>
        cases isShape : value.shape with
        | finite negative mantissa exponent =>
            obtain rfl : mantissa = 0 := by simpa [Value.isTruthy, isShape] using isFalse
            exact .float isShape
        | infinite negative => simp [Value.isTruthy, isShape] at isFalse
        | notANumber => simp [Value.isTruthy, isShape] at isFalse
    | string value =>
        obtain rfl : value = [] := by simpa [Value.isTruthy] using isFalse
        exact .string
    | array elements =>
        obtain rfl : elements = [] := by simpa [Value.isTruthy] using isFalse
        exact .array
    | object members =>
        obtain rfl : members = [] := by simpa [Value.isTruthy] using isFalse
        exact .object
  · intro isFalsy
    cases isFalsy with
    | float isZero => simp [Value.isTruthy, isZero]
    | _ => rfl

section Members

variable {members : Members}

theorem isSet_eq_false_iff
    {key : Text} :
    isSet members key = false ↔ IsOff members key := by
  unfold isSet IsOff
  cases members.get? key with
  | none => simp
  | some value => simp [isTruthy_eq_false_iff]

theorem readTemplateName_eq_ok_iff
    {name : Text} :
    readTemplateName members = .ok name ↔
      members.get? "templateType" = some (.string name) ∧ name ≠ [] := by
  unfold readTemplateName
  split
  · rename_i first rest found
    rw [found]
    constructor
    · intro isName
      cases isName
      exact ⟨rfl, by simp⟩
    · rintro ⟨same, _⟩
      cases same
      rfl
  · rename_i other
    constructor
    · intro isName
      cases isName
    · rintro ⟨found, notEmpty⟩
      cases name with
      | nil => exact absurd rfl notEmpty
      | cons first rest => exact absurd found (other first rest)

theorem readBlocks_eq_ok_iff
    {blocks : List Value} :
    readBlocks members = .ok blocks ↔ members.get? "blocks" = some (.array blocks) := by
  unfold readBlocks
  split
  · rename_i found
    rw [found]
    simp
  · rename_i other
    constructor
    · intro areBlocks
      cases areBlocks
    · intro found
      exact absurd found (other blocks)

/-- The personal data of a request body, if it is nothing or an object. -/
theorem readPersonalData_eq_ok_iff
    {data : Value} :
    Service.readPersonalData members = .ok data ↔
      personalData members = data ∧ (data = .null ∨ ∃ entries, data = .object entries) := by
  unfold Service.readPersonalData personalData
  cases found : members.get? "personalizationVariables" with
  | none => simp +contextual [eq_comm]
  | some value => cases value <;> simp +contextual [eq_comm]

/-- The parts that a request body is read into. -/
theorem readPayload_object_eq_ok_iff
    {request : Payload} :
    readPayload (.object members) = .ok request ↔
      ∃ name raw data,
        readTemplateName members = .ok name ∧ readBlocks members = .ok raw ∧
          Service.readPersonalData members = .ok data ∧
            request =
              ⟨name, raw, data, isSet members "strict", isSet members "inlineCss"⟩ := by
  simp only [readPayload, bind_eq_ok_iff, pure, Except.pure, Except.ok.injEq]
  constructor
  · rintro ⟨name, isName, raw, areRaw, data, isData, rfl⟩
    exact ⟨name, raw, data, isName, areRaw, isData, rfl⟩
  · rintro ⟨name, raw, data, isName, areRaw, isData, rfl⟩
    exact ⟨name, isName, raw, areRaw, data, isData, rfl⟩

end Members

theorem name_ne_nil
    (template : TemplateType) :
    template.name ≠ [] := by
  cases template <;> decide

/-- Personal data is nothing or an object. -/
theorem null_or_object_of_isPersonalData
    {data : Value}
    (isData : IsPersonalData data) :
    data = .null ∨ ∃ entries, data = .object entries := by
  cases data with
  | null => exact .inl rfl
  | object entries => exact .inr ⟨entries, rfl⟩
  | _ => cases isData

/-- A body of the right shape is taken apart. -/
theorem readPayload_of_members
    {members : Members}
    {name : Text}
    {raw : List Value}
    (namesTemplate : members.get? "templateType" = some (.string name))
    (hasName : name ≠ [])
    (holdsBlocks : members.get? "blocks" = some (.array raw))
    (holdsData :
      personalData members = .null ∨ ∃ entries, personalData members = .object entries) :
    readPayload (.object members) =
      .ok ⟨name, raw, personalData members, isSet members "strict", isSet members "inlineCss"⟩ :=
  readPayload_object_eq_ok_iff.mpr ⟨_, _, _,
    readTemplateName_eq_ok_iff.mpr ⟨namesTemplate, hasName⟩,
    readBlocks_eq_ok_iff.mpr holdsBlocks, readPersonalData_eq_ok_iff.mpr ⟨rfl, holdsData⟩, rfl⟩

section Answer

variable
  {settings : Settings}
  {request : Request}
  {parts : Payload}
  (isRead : readPayload request.payload = .ok parts)

include isRead

/-- A composed document is answered. -/
theorem withDocument_of_ok
    {document : Document}
    (composed :
      compose settings (.string parts.templateName) (.array parts.blocks) parts.personalData =
        .ok document)
    (answer : Payload → Document → Response) :
    withDocument settings request answer = .ok (answer parts document) := by
  simp only [withDocument, isRead, composed]

/-- Where composing fails, the failure is refused. -/
theorem withDocument_of_error
    {error : ComposeError}
    (fails :
      compose settings (.string parts.templateName) (.array parts.blocks) parts.personalData =
        .error error)
    (answer : Payload → Document → Response) :
    withDocument settings request answer = refusal error := by
  simp only [withDocument, isRead, fails]

end Answer

section Request

variable {payload : Value}

/-- A body that is not malformed is a request. -/
theorem exists_isRequest
    (wellFormed : ¬ IsMalformed payload) :
    ∃ members template raw read, IsRequest payload members template raw read := by
  cases payload with
  | object fields =>
      let members : Members := fields
      obtain ⟨template, namesTemplate⟩ :
          ∃ template : TemplateType,
            members.get? "templateType" = some (.string template.name) := by
        by_contra unregistered
        exact wellFormed (.noTemplate (not_exists.mp unregistered))
      obtain ⟨raw, holdsBlocks⟩ : ∃ raw, members.get? "blocks" = some (.array raw) := by
        by_contra noList
        exact wellFormed (.noBlockList (not_exists.mp noList))
      have holdsData : IsPersonalData (personalData members) := by
        by_contra noData
        exact wellFormed (.noPersonalData noData)
      have areRead : ∀ source ∈ raw, ∃ block, Block.read source = .valid block := by
        intro source isBlock
        cases outcome : Block.read source with
        | valid block => exact ⟨block, rfl⟩
        | invalid faults => exact absurd (.invalidBlock holdsBlocks isBlock outcome) wellFormed
      obtain ⟨read, readsBlocks⟩ := exists_forall₂_iff.mpr areRead
      exact ⟨members, template, raw, read, rfl, namesTemplate, holdsBlocks, readsBlocks, holdsData⟩
  | _ => exact absurd (.noObject (by simp)) wellFormed

variable
  {members : Members}
  {template : TemplateType}
  {raw : List Value}
  {read : List Block}

/-- A request is not malformed. -/
theorem IsRequest.not_isMalformed
    (isRequest : IsRequest payload members template raw read) :
    ¬ IsMalformed payload := by
  intro isMalformed
  cases isRequest.isObject
  cases isMalformed with
  | noObject notObject => exact notObject members rfl
  | noTemplate unregistered => exact unregistered template isRequest.namesTemplate
  | noBlockList noList => exact noList raw isRequest.holdsBlocks
  | noPersonalData noData => exact noData isRequest.holdsData
  | invalidBlock areBlocks isBlock fails =>
      cases areBlocks.symm.trans isRequest.holdsBlocks
      obtain ⟨block, isRead⟩ := exists_forall₂_iff.mp ⟨read, isRequest.readsBlocks⟩ _ isBlock
      rw [fails] at isRead
      cases isRead

/-- A document is composed from every request. -/
theorem IsRequest.exists_isComposed
    (isRequest : IsRequest payload members template raw read)
    (settings : Settings) :
    ∃ document, IsComposed settings members template raw read document := by
  have areRead : raw.mapM readBlock = .ok read :=
    mapM_eq_ok_iff.mpr (isRequest.readsBlocks.imp fun _ _ => readBlock_eq_ok_iff.mpr)
  obtain ⟨data, isData⟩ := exists_readPersonalData_iff.mpr isRequest.holdsData
  have areRaw : rawBlocks (.array raw) = .ok raw := rfl
  obtain ⟨document, composed⟩ : ∃ document,
      compose settings (.string template.name) (.array raw) (personalData members) =
        .ok document :=
    ⟨_, compose_eq_ok_iff.mpr
      ⟨template, raw, read, data, find_string_eq_ok_iff.mpr rfl, areRaw, areRead, isData, rfl⟩⟩
  obtain ⟨blocks, issues⟩ := urlIssues_of_compose areRaw areRead composed
  exact ⟨document, composed, blocks, issues⟩

/-- A request is answered with what becomes of its document. -/
theorem IsRequest.withDocument_eq
    (isRequest : IsRequest payload members template raw read)
    {settings : Settings}
    {document : Document}
    (isComposed : IsComposed settings members template raw read document)
    {request : Request}
    (hasPayload : request.payload = payload)
    (answer : Payload → Document → Response) :
    withDocument settings request answer =
      .ok (answer
        ⟨template.name, raw, personalData members, isSet members "strict",
          isSet members "inlineCss"⟩ document) := by
  have isRead : readPayload request.payload =
      .ok ⟨template.name, raw, personalData members, isSet members "strict",
        isSet members "inlineCss"⟩ := by
    rw [hasPayload, isRequest.isObject]
    exact readPayload_of_members isRequest.namesTemplate (name_ne_nil template)
      isRequest.holdsBlocks (null_or_object_of_isPersonalData isRequest.holdsData)
  exact withDocument_of_ok isRead isComposed.isOutcome answer

/-- A body that is read and composed is a request. -/
theorem exists_isRequest_of_compose
    {settings : Settings}
    {request : Payload}
    {document : Document}
    (isRead : readPayload payload = .ok request)
    (composed :
      compose settings (.string request.templateName) (.array request.blocks)
        request.personalData = .ok document) :
    ∃ members template raw read, IsRequest payload members template raw read := by
  cases payload with
  | object members =>
      obtain ⟨name, raw, data, isName, areRaw, isData, rfl⟩ :=
        readPayload_object_eq_ok_iff.mp isRead
      dsimp only at composed
      obtain ⟨template, others, read, dataRead, found, areOthers, areRead, isDataRead, _⟩ :=
        compose_eq_ok_iff.mp composed
      cases areOthers
      have isTemplate := find_string_eq_ok_iff.mp found
      have namesTemplate := (readTemplateName_eq_ok_iff.mp isName).1
      rw [isTemplate] at namesTemplate
      have holdsData := exists_readPersonalData_iff.mp ⟨dataRead, isDataRead⟩
      rw [← (readPersonalData_eq_ok_iff.mp isData).1] at holdsData
      have readsBlocks := (mapM_eq_ok_iff.mp areRead).imp fun _ _ => readBlock_eq_ok_iff.mp
      exact ⟨members, template, raw, read, rfl, namesTemplate, readBlocks_eq_ok_iff.mp areRaw,
        readsBlocks, holdsData⟩
  | _ => cases isRead

/-- Where composing fails for what an element is, it breaks off there. -/
theorem exists_breaksOff_of_compose
    {settings : Settings}
    {parts : Payload}
    {typeName : Text}
    (isRead : readPayload payload = .ok parts)
    (composed :
      compose settings (.string parts.templateName) (.array parts.blocks) parts.personalData =
        .error (.noBlock typeName)) :
    ∃ members template raw, BreaksOff payload members template raw typeName := by
  cases payload with
  | object members =>
      obtain ⟨name, raw, data, isName, areRaw, isData, rfl⟩ :=
        readPayload_object_eq_ok_iff.mp isRead
      obtain ⟨isPersonal, isNothingOrObject⟩ := readPersonalData_eq_ok_iff.mp isData
      rcases compose_array_eq_error_iff.mp composed with
          ⟨error, _, impossible⟩ | ⟨⟨template, found⟩, noBlocks | ⟨_, noData⟩⟩
      · cases impossible
      · have namesTemplate := (readTemplateName_eq_ok_iff.mp isName).1
        rw [show name = template.name from find_string_eq_ok_iff.mp found] at namesTemplate
        exact ⟨members, template, raw, rfl, namesTemplate, readBlocks_eq_ok_iff.mp areRaw,
          isPersonal ▸ isNothingOrObject, mapM_readBlock_eq_noBlock_iff.mp noBlocks⟩
      · obtain ⟨faults, _, impossible⟩ := checked_eq_error_iff.mp noData
        cases impossible
  | _ => cases isRead

/-- A malformed body is answered as a bad request, or composing breaks off. -/
theorem IsMalformed.withDocument_cases
    (isMalformed : IsMalformed payload)
    (settings : Settings)
    {request : Request}
    (hasPayload : request.payload = payload)
    (answer : Payload → Document → Response) :
    (∃ response,
        withDocument settings request answer = .ok response ∧ response.status = 400) ∨
      ∃ members template raw typeName, BreaksOff payload members template raw typeName := by
  subst hasPayload
  cases isRead : readPayload request.payload with
  | error error => exact .inl ⟨.error 400 error.message, by simp only [withDocument, isRead], rfl⟩
  | ok parts =>
      cases composed : compose settings (.string parts.templateName) (.array parts.blocks)
          parts.personalData with
      | ok document =>
          obtain ⟨_, _, _, _, isRequest⟩ := exists_isRequest_of_compose isRead composed
          exact absurd isMalformed isRequest.not_isMalformed
      | error failure =>
          have refused := withDocument_of_error isRead composed answer
          rcases compose_array_error_cases composed with
              ⟨error, rfl⟩ | ⟨faults, rfl⟩ | ⟨typeName, rfl⟩
          · exact .inl ⟨_, refused, rfl⟩
          · exact .inl ⟨_, refused, rfl⟩
          · obtain ⟨members, template, raw, breaksOff⟩ := exists_breaksOff_of_compose isRead composed
            exact .inr ⟨members, template, raw, typeName, breaksOff⟩

/-- Where composing breaks off nothing is answered. -/
theorem BreaksOff.withDocument_eq
    {members : Members}
    {template : TemplateType}
    {raw : List Value}
    {typeName : Text}
    (breaksOff : BreaksOff payload members template raw typeName)
    (settings : Settings)
    {request : Request}
    (hasPayload : request.payload = payload)
    (answer : Payload → Document → Response) :
    withDocument settings request answer = .error (.noBlock typeName) := by
  have isRead : readPayload request.payload =
      .ok ⟨template.name, raw, personalData members, isSet members "strict",
        isSet members "inlineCss"⟩ := by
    rw [hasPayload, breaksOff.isObject]
    exact readPayload_of_members breaksOff.namesTemplate (name_ne_nil template)
      breaksOff.holdsBlocks breaksOff.holdsData
  have composed : compose settings (.string template.name) (.array raw) (personalData members) =
      .error (.noBlock typeName) :=
    compose_array_eq_error_iff.mpr (.inr ⟨⟨template, find_string_eq_ok_iff.mpr rfl⟩,
      .inl (mapM_readBlock_eq_noBlock_iff.mpr breaksOff.stops)⟩)
  exact withDocument_of_error isRead composed answer

/-- Such a body is malformed. -/
theorem BreaksOff.isMalformed
    {members : Members}
    {template : TemplateType}
    {raw : List Value}
    {typeName : Text}
    (breaksOff : BreaksOff payload members template raw typeName) :
    IsMalformed payload := by
  have holdsBlocks := breaksOff.holdsBlocks
  obtain ⟨before, source, after, rfl, _, notObject, _⟩ := breaksOff.stops
  rw [breaksOff.isObject]
  cases isRead : Block.read source with
  | valid block =>
      obtain ⟨fields, isObject⟩ := exists_of_tagged_eq_valid isRead
      exact absurd isObject (notObject fields)
  | invalid faults => exact .invalidBlock holdsBlocks (by simp) isRead

/-- A body breaks composing off only if its blocks hold something else than objects. -/
theorem BreaksOff.not_holdsOnlyObjects
    {members : Members}
    {template : TemplateType}
    {raw : List Value}
    {typeName : Text}
    (breaksOff : BreaksOff payload members template raw typeName) :
    ¬ HoldsOnlyObjects payload := by
  intro onlyObjects
  obtain ⟨before, source, after, rfl, _, notObject, _⟩ := breaksOff.stops
  obtain ⟨fields, isObject⟩ :=
    onlyObjects members _ breaksOff.isObject breaksOff.holdsBlocks source (by simp)
  exact notObject fields isObject

/-- Where the blocks are objects, a malformed body is always answered as a bad request. -/
theorem IsMalformed.withDocument_eq
    (isMalformed : IsMalformed payload)
    (onlyObjects : HoldsOnlyObjects payload)
    (settings : Settings)
    {request : Request}
    (hasPayload : request.payload = payload)
    (answer : Payload → Document → Response) :
    ∃ response, withDocument settings request answer = .ok response ∧ response.status = 400 := by
  rcases isMalformed.withDocument_cases settings hasPayload answer with
      answered | ⟨_, _, _, _, breaksOff⟩
  · exact answered
  · exact absurd onlyObjects breaksOff.not_holdsOnlyObjects

end Request

end EmailComposer.Service
