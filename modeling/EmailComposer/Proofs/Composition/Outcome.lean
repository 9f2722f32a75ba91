import EmailComposer.Proofs.Composition.Compose

namespace EmailComposer.Composition

/-!
# The outcome of a composition

A composition gives a whole document or fails, and the first fault decides how it fails: the
name of the template, then the blocks one after the other, then the personal data. An unusable
URL is no fault: its block is refused inside the loop over the blocks, and that failure never
leaves the loop.
-/

open EmailComposer.Text
open EmailComposer.Json
open EmailComposer.Schema

/-- A raw block that cannot be read, and how a composition fails at it. -/
inductive IsBad : Value → ComposeError → Prop where
  | noObject
      {source : Value}
      (notObject : ∀ fields, source ≠ .object fields) :
      IsBad source (.noBlock source.typeName)
  | invalid
      {fields : Members}
      {faults : List Fault}
      (fails : Block.read (.object fields) = .invalid faults) :
      IsBad (.object fields) (.invalid faults)

/-- The first fault in what a document is composed from, and how the composition fails. -/
inductive FirstFault (name : Text) (raw : List Value) (data : Value) : ComposeError → Prop where
  | template
      (unregistered : ∀ template : TemplateType, name ≠ template.name) :
      FirstFault name raw data (.template (.unknown name))
  | block
      {template : TemplateType}
      {before after : List Value}
      {source : Value}
      {failure : ComposeError}
      (isRegistered : name = template.name)
      (split : raw = before ++ source :: after)
      (areRead : ∀ earlier ∈ before, ∃ block, Block.read earlier = .valid block)
      (isBad : IsBad source failure) :
      FirstFault name raw data failure
  | personalData
      {template : TemplateType}
      {faults : List Fault}
      (isRegistered : name = template.name)
      (areRead : ∀ source ∈ raw, ∃ block, Block.read source = .valid block)
      (noData : ¬ IsPersonalData data)
      (fails : Schema.optional Document.readPersonalData data = .invalid faults) :
      FirstFault name raw data
        (.invalid (faults.map (Fault.under (.member "personalization_variables"))))

theorem readBlock_eq_error_iff_isBad
    {source : Value}
    {failure : ComposeError} :
    readBlock source = .error failure ↔ IsBad source failure := by
  rw [readBlock_eq_error_iff]
  constructor
  · rintro (⟨fields, faults, rfl, fails, rfl⟩ | ⟨notObject, rfl⟩)
    · exact .invalid fails
    · exact .noObject notObject
  · rintro (⟨notObject⟩ | @⟨fields, faults, fails⟩)
    · exact .inr ⟨notObject, rfl⟩
    · exact .inl ⟨fields, faults, rfl, fails, rfl⟩

/-- Reading a list of raw blocks fails at the first that cannot be read. -/
theorem mapM_readBlock_eq_error_iff
    {raw : List Value}
    {failure : ComposeError} :
    raw.mapM readBlock = .error failure ↔
      ∃ before source after,
        raw = before ++ source :: after ∧
          (∀ earlier ∈ before, ∃ block, Block.read earlier = .valid block) ∧
            IsBad source failure := by
  simp only [mapM_eq_error_iff, readBlock_eq_ok_iff, readBlock_eq_error_iff_isBad]

/-- Such a list is read if each of its elements is. -/
theorem exists_mapM_readBlock_iff
    {raw : List Value} :
    (∃ read, raw.mapM readBlock = .ok read) ↔
      ∀ source ∈ raw, ∃ block, Block.read source = .valid block := by
  simp only [mapM_eq_ok_iff, readBlock_eq_ok_iff, exists_forall₂_iff]

/-- The faults of personal data are reported under the name of its field. -/
theorem readPersonalData_eq_error_iff
    {data : Value}
    {failure : ComposeError} :
    readPersonalData data = .error failure ↔
      ∃ faults,
        Schema.optional Document.readPersonalData data = .invalid faults ∧
          failure = .invalid (faults.map (Fault.under (.member "personalization_variables"))) := by
  rw [readPersonalData, checked_eq_error_iff]
  cases Schema.optional Document.readPersonalData data with
  | valid value => simp [Checked.under]
  | invalid faults => simp [Checked.under]

/-- Data that cannot be read is no personal data. -/
theorem not_isPersonalData_of_error
    {data : Value}
    {failure : ComposeError}
    (fails : readPersonalData data = .error failure) :
    ¬ IsPersonalData data := by
  rw [← exists_readPersonalData_iff]
  rintro ⟨read, isRead⟩
  rw [fails] at isRead
  cases isRead

section Compose

variable
  {settings : Settings}
  {name : Text}
  {raw : List Value}
  {data : Value}

/-- A composition fails exactly by the first fault. -/
theorem compose_eq_error_iff_firstFault
    {failure : ComposeError} :
    compose settings (.string name) (.array raw) data = .error failure ↔
      FirstFault name raw data failure := by
  simp only [compose_array_eq_error_iff, find_string_eq_ok_iff, find_string_eq_error_iff,
    exists_mapM_readBlock_iff, mapM_readBlock_eq_error_iff]
  constructor
  · rintro (⟨_, ⟨unregistered, rfl⟩, rfl⟩ |
        ⟨⟨template, isRegistered⟩, ⟨before, source, after, split, areRead, isBad⟩ |
          ⟨areRead, fails⟩⟩)
    · exact .template unregistered
    · exact .block isRegistered split areRead isBad
    · obtain ⟨faults, noData, rfl⟩ := readPersonalData_eq_error_iff.mp fails
      exact .personalData isRegistered areRead (not_isPersonalData_of_error fails) noData
  · intro isFirst
    cases isFirst with
    | template unregistered => exact .inl ⟨_, ⟨unregistered, rfl⟩, rfl⟩
    | block isRegistered split areRead isBad =>
        exact .inr ⟨⟨_, isRegistered⟩, .inl ⟨_, _, _, split, areRead, isBad⟩⟩
    | personalData isRegistered areRead _ fails =>
        exact .inr ⟨⟨_, isRegistered⟩,
          .inr ⟨areRead, readPersonalData_eq_error_iff.mpr ⟨_, fails, rfl⟩⟩⟩

/-- That a block is refused for its URL is never the first fault. -/
theorem not_firstFault_rejected
    {rejection : UrlRejection} :
    ¬ FirstFault name raw data (.rejected rejection) := by
  intro isFirst
  cases isFirst with
  | block isRegistered split areRead isBad => cases isBad

/-- A composition gives a document exactly if there is nothing to fail by. -/
theorem exists_compose_eq_ok_iff :
    (∃ document, compose settings (.string name) (.array raw) data = .ok document) ↔
      (∃ template : TemplateType, name = template.name) ∧
        (∀ source ∈ raw, ∃ block, Block.read source = .valid block) ∧
          IsPersonalData data := by
  rw [← exists_mapM_readBlock_iff, ← exists_readPersonalData_iff]
  simp only [compose_eq_ok_iff, find_string_eq_ok_iff]
  constructor
  · rintro ⟨_, template, _, read, personalData, isRegistered, areRaw, areRead, isData, _⟩
    cases areRaw
    exact ⟨⟨template, isRegistered⟩, ⟨read, areRead⟩, ⟨personalData, isData⟩⟩
  · rintro ⟨⟨template, isRegistered⟩, ⟨read, areRead⟩, ⟨personalData, isData⟩⟩
    exact ⟨_, template, raw, read, personalData, isRegistered, rfl, areRead, isData, rfl⟩

end Compose

/--
A composition from the name of a template, a list of raw blocks and personal data fails exactly
by the first fault in them, and never because a block is refused for its URL. It gives a document
exactly if a template has the name, every block is read and the data is nothing or texts by name;
the URLs of the blocks do not matter.
-/
theorem compose_outcome
    (settings : Settings)
    (name : Text)
    (raw : List Value)
    (data : Value) :
    (∀ failure,
      compose settings (.string name) (.array raw) data = .error failure ↔
        FirstFault name raw data failure) ∧
      (∀ rejection,
        compose settings (.string name) (.array raw) data ≠ .error (.rejected rejection)) ∧
        ((∃ document, compose settings (.string name) (.array raw) data = .ok document) ↔
          (∃ template : TemplateType, name = template.name) ∧
            (∀ source ∈ raw, ∃ block, Block.read source = .valid block) ∧
              IsPersonalData data) := by
  refine ⟨fun failure => compose_eq_error_iff_firstFault, ?_, exists_compose_eq_ok_iff⟩
  intro rejection fails
  exact not_firstFault_rejected (compose_eq_error_iff_firstFault.mp fails)

end EmailComposer.Composition
