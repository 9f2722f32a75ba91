import EmailComposer.Proofs.Composition.Progress
import EmailComposer.Proofs.Rendering.Block

namespace EmailComposer.Composition

/-!
# What a composed document holds

A composition succeeds exactly if each of its steps does. Its blocks are the read blocks
with sanitized text, so their markup is that of emails only.
-/

open EmailComposer.Text
open EmailComposer.Json
open EmailComposer.Markup
open EmailComposer.Schema

section Parts

/-- The first element of a list that cannot be read as a block is no object, and the name of
its type. -/
def StopsAtNoObject (raw : List Value) (typeName : Text) : Prop :=
  ∃ before source after,
    raw = before ++ source :: after ∧
      (∀ earlier ∈ before, ∃ block, Block.read earlier = .valid block) ∧
        (∀ fields, source ≠ .object fields) ∧ typeName = source.typeName

/-- So it is where reading the raw blocks fails for what one of them is. -/
theorem mapM_readBlock_eq_noBlock_iff
    {raw : List Value}
    {typeName : Text} :
    raw.mapM readBlock = .error (.noBlock typeName) ↔ StopsAtNoObject raw typeName := by
  simp only [mapM_eq_error_iff, readBlock_eq_ok_iff, readBlock_eq_error_iff, StopsAtNoObject,
    reduceCtorEq, and_false, exists_const, false_or, ComposeError.noBlock.injEq]

/-- The template of a name is the one that has it. -/
theorem find_string_eq_ok_iff
    {name : Text}
    {template : TemplateType} :
    Template.find (.string name) = .ok template ↔ name = template.name := by
  constructor
  · intro found
    cases isType : TemplateType.ofName? name with
    | none => simp [Template.find, isType] at found
    | some type =>
        simp only [Template.find, isType, Except.ok.injEq] at found
        rw [TemplateType.ofName?] at isType
        have hasName := List.find?_some isType
        simpa [found, eq_comm] using hasName
  · rintro rfl
    cases template <;> rfl

/-- A name that no template has is unknown. -/
theorem find_string_eq_error_iff
    {name : Text}
    {error : Template.LookupError} :
    Template.find (.string name) = .error error ↔
      (∀ template : TemplateType, name ≠ template.name) ∧ error = .unknown name := by
  constructor
  · intro fails
    refine ⟨fun template isName => ?_, ?_⟩
    · rw [find_string_eq_ok_iff.mpr isName] at fails
      cases fails
    · cases isType : TemplateType.ofName? name with
      | none =>
          simp only [Template.find, isType, Except.error.injEq] at fails
          exact fails.symm
      | some type => simp [Template.find, isType] at fails
  · rintro ⟨unregistered, rfl⟩
    cases isType : TemplateType.ofName? name with
    | none => simp [Template.find, isType]
    | some type =>
        have found : Template.find (.string name) = .ok type := by
          simp [Template.find, isType]
        exact absurd (find_string_eq_ok_iff.mp found) (unregistered type)

/-- Personal data is nothing or texts by name. -/
def IsPersonalData : Value → Prop
  | .null => True
  | .object entries => ∀ entry ∈ entries, ∃ text, entry.2 = .string text
  | _ => False

/-- Such data is read, and nothing else is. -/
theorem exists_readPersonalData_iff
    {data : Value} :
    (∃ read, readPersonalData data = .ok read) ↔ IsPersonalData data := by
  simp only [readPersonalData, checked_eq_ok_iff, under_eq_valid_iff]
  cases data with
  | null => simp [Schema.optional, IsPersonalData]
  | object members =>
      rw [IsPersonalData, ← exists_entries_iff]
      simp only [Schema.optional, map_eq_valid_iff, Document.readPersonalData, mapping]
      constructor
      · rintro ⟨_, read, isRead, _⟩
        exact ⟨read, isRead⟩
      · rintro ⟨read, isRead⟩
        exact ⟨some read, read, isRead, rfl⟩
  | _ => simp [Schema.optional, map_eq_valid_iff, Document.readPersonalData, mapping,
      fault_ne_valid, IsPersonalData]

end Parts

section Compose

variable
  {settings : Settings}
  {templateName blocks data : Value}
  {document : Document}

/-- The parts of a composition, all of which are read. The loop over the raw blocks gives the
read blocks with sanitized text and the issues with their URLs. -/
theorem compose_eq_ok_iff :
    compose settings templateName blocks data = .ok document ↔
      ∃ template raw read personalData,
        Template.find templateName = .ok template ∧
          rawBlocks blocks = .ok raw ∧
            raw.mapM readBlock = .ok read ∧
              readPersonalData data = .ok personalData ∧
                document =
                  let assembled :=
                    assemble settings template (read.map Block.sanitizeContent) personalData
                  record assembled ((read.filter Block.hasUnusableUrl).map urlIssue ++
                    assembled.validate (Template.rules template) false) := by
  simp only [compose, bind_eq_ok_iff, mapError_eq_ok_iff, sanitizeBlocks_eq, map_eq_ok_iff, pure,
    Except.pure, Except.ok.injEq]
  constructor
  · rintro ⟨template, isTemplate, raw, areRaw, _, ⟨read, areRead, rfl⟩, personalData, isData, rfl⟩
    exact ⟨template, raw, read, personalData, isTemplate, areRaw, areRead, isData, rfl⟩
  · rintro ⟨template, raw, read, personalData, isTemplate, areRaw, areRead, isData, rfl⟩
    exact ⟨template, isTemplate, raw, areRaw, _, ⟨read, areRead, rfl⟩, personalData, isData, rfl⟩

/-- The parts of a composition of a list, the first of which not to be read decides. -/
theorem compose_array_eq_error_iff
    {raw : List Value}
    {failure : ComposeError} :
    compose settings templateName (.array raw) data = .error failure ↔
      (∃ error, Template.find templateName = .error error ∧ failure = .template error) ∨
        (∃ template, Template.find templateName = .ok template) ∧
          (raw.mapM readBlock = .error failure ∨
            (∃ read, raw.mapM readBlock = .ok read) ∧ readPersonalData data = .error failure) := by
  have areRaw : rawBlocks (.array raw) = .ok raw := rfl
  simp only [compose, bind_eq_error_iff, areRaw, sanitizeBlocks_eq, map_eq_ok_iff,
    map_eq_error_iff, pure, Except.pure, reduceCtorEq, and_false, exists_const, or_false, false_or,
    Except.ok.injEq, exists_eq_left', mapError_eq_ok_iff, exists_and_right]
  cases Template.find templateName <;> simp [Except.mapError, eq_comm]

/-- A composition of a list fails because of the template, of faults or of an element that is
no object. -/
theorem compose_array_error_cases
    {raw : List Value}
    {failure : ComposeError}
    (fails : compose settings templateName (.array raw) data = .error failure) :
    (∃ error, failure = .template error) ∨ (∃ faults, failure = .invalid faults) ∨
      ∃ typeName, failure = .noBlock typeName := by
  rcases compose_array_eq_error_iff.mp fails with
      ⟨error, _, rfl⟩ | ⟨_, noBlocks | ⟨_, noData⟩⟩
  · exact .inl ⟨error, rfl⟩
  · obtain ⟨_, source, _, _, _, failsHere⟩ := mapM_eq_error_iff.mp noBlocks
    rcases readBlock_eq_error_iff.mp failsHere with ⟨_, faults, _, _, rfl⟩ | ⟨_, rfl⟩
    · exact .inr (.inl ⟨faults, rfl⟩)
    · exact .inr (.inr ⟨source.typeName, rfl⟩)
  · obtain ⟨faults, _, rfl⟩ := checked_eq_error_iff.mp noData
    exact .inr (.inl ⟨faults, rfl⟩)

/-- The blocks of a composed document are read blocks with sanitized text, whatever became of
their URLs. -/
theorem exists_blocks_of_compose
    (composed : compose settings templateName blocks data = .ok document) :
    ∃ raw read,
      rawBlocks blocks = .ok raw ∧ raw.mapM readBlock = .ok read ∧
        document.blocks = read.map Block.sanitizeContent := by
  obtain ⟨template, raw, read, personalData, _, areRaw, areRead, _, rfl⟩ :=
    compose_eq_ok_iff.mp composed
  exact ⟨raw, read, areRaw, areRead, rfl⟩

/-- Every opening bracket of a rendered block of a composed document begins a tag of an element
that emails are built from. -/
theorem compose_onlyElements
    (composed : compose settings templateName blocks data = .ok document) :
    ∀ block ∈ document.blocks, OnlyElements (Rendering.block block) := by
  obtain ⟨raw, read, _, _, sanitized⟩ := exists_blocks_of_compose composed
  intro block member
  rw [sanitized] at member
  obtain ⟨source, _, rfl⟩ := List.mem_map.mp member
  exact Rendering.onlyElements_sanitizeContent source

end Compose

/-- A button that is kept although its address would run a script. -/
def scriptButton : Value :=
  .object [("type", .string "button"), ("id", .string "1"), ("label", .string "<b>1 < 2</b>"),
    ("href", .string "javascript:alert(1)")]

/-- So it is with a button whose address is refused and recorded. -/
theorem compose_onlyElements_of_scriptButton :
    ∃ settings document,
      compose settings (.string "newsletter") (.array [scriptButton]) .null = .ok document ∧
        (urlIssues document).length = 1 ∧
          ∀ block ∈ document.blocks, OnlyElements (Rendering.block block) := by
  have succeeds : ((Settings.read ⟨[]⟩).toOption.bind fun settings =>
      (compose settings (.string "newsletter") (.array [scriptButton]) .null).toOption).map
        (fun document => (urlIssues document).length) = some 1 := by
    decide +kernel
  obtain ⟨document, isComposed, oneIssue⟩ := Option.map_eq_some_iff.mp succeeds
  obtain ⟨settings, _, isOutcome⟩ := Option.bind_eq_some_iff.mp isComposed
  have composed := toOption_eq_some_iff.mp isOutcome
  exact ⟨settings, document, composed, oneIssue, compose_onlyElements composed⟩

end EmailComposer.Composition
