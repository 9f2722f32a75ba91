import EmailComposer.Proofs.Content.Policy
import EmailComposer.Proofs.Markup.Dropped
import EmailComposer.Proofs.Token.Masked

namespace EmailComposer

/-!
# What warnings show

Tokens that are cut out are recorded as they stand in the text, but markup is recorded as it
stands in the masked text, and the placeholders in a record are not swapped back. A warning
shows one exactly if markup that holds it is dropped.
-/

open EmailComposer.Text
open EmailComposer.Markup
open EmailComposer.Token

section Mark

variable {mark : Text} (isMark : IsMark mark)

include isMark

/-- A warning shows a mark exactly if what it is about does. -/
theorem SanitizationReport.infix_warning_iff
    (item : DroppedItem) :
    mark <:+: warning item ↔ mark <:+: item.detail := by
  apply isMark.infix_append_iff
  cases item.kind <;> decide

/-- The warnings on a text show a mark exactly if something that was dropped does. -/
theorem SanitizationReport.exists_warning_infix_iff
    {type : BlockType}
    {text : Text} :
    (∃ warning ∈ (ofText type text).warnings, mark <:+: warning) ↔
      ∃ item ∈ (type.policy.sanitize text).dropped, mark <:+: item.detail := by
  simp only [ofText, List.mem_map, exists_exists_and_eq_and, infix_warning_iff isMark]

end Mark

namespace Markup.Tag

/--
A record on the tag shows a part: the tag itself if it does not survive; and of an opening tag
the name of an attribute that is not allowed, in lower case, and an address that is refused
for its protocol.
-/
inductive Shows (allowed : List Text) (marker : Option Text) (part : Text) (tag : Tag) : Prop where
  | inTag
      (goes : tag.survives allowed = false)
      (isShown : part <:+: tag.raw)
  | inName
      (survives : tag.survives allowed = true)
      (isOpening : tag.closing = false)
      {entry : Attribute}
      (member : entry ∈ tag.attributes)
      (notAllowed : entry.1 ∉ allowedAttributes tag.name)
      (isShown : part <:+: lower entry.1)
  | inAddress
      (survives : tag.survives allowed = true)
      (isOpening : tag.closing = false)
      {before after : List Attribute}
      {entry : Attribute}
      (shape : tag.attributes = before ++ entry :: after)
      (isAllowed : entry.1 ∈ allowedAttributes tag.name)
      (isFirst : entry.1 ∉ tag.acceptedNames marker before)
      (noMarker : (marker.any fun text => !text.isEmpty && includes text entry.2) = false)
      (isUrl : entry.1 ∈ urlAttributes)
      (noProtocol : Url.hasAllowedProtocol entry.2 = false)
      (isShown : part <:+: entry.2)

section Records

variable {allowed : List Text} {marker : Option Text} {mark : Text} {tag : Tag}

/-- No attribute that a tag allows has a zero in its name. -/
theorem zero_not_mem_of_allowed
    {tagName name : Text}
    (isAllowed : name ∈ allowedAttributes tagName) :
    '0' ∉ name := by
  have noZero : ∀ listed ∈ (["href", "src", "alt", "width", "height"] : List Text),
      '0' ∉ listed := by
    decide
  exact noZero name (mem_of_mem_allowedAttributes isAllowed)

/-- The place of an allowed attribute has no zero. -/
theorem zero_not_mem_place
    (noZero : '0' ∉ tag.name)
    {entry : Attribute}
    (isAllowed : entry.1 ∈ allowedAttributes tag.name) :
    '0' ∉ tag.place entry := by
  rw [place, (isAttributeWord_of_allowed isAllowed).isLower, List.mem_append, List.mem_append,
    not_or, not_or]
  exact ⟨⟨noZero, by decide⟩, zero_not_mem_of_allowed isAllowed⟩

/-- The record on a refused attribute shows a mark exactly if its name is not allowed and
shows it, or its address is refused for the protocol and shows it. -/
theorem exists_refusal?_infix_iff
    (isMark : IsMark mark)
    (noZero : '0' ∉ tag.name)
    {names : List Text}
    {entry : Attribute} :
    (∃ item, tag.refusal? marker names entry = some item ∧ mark <:+: item.detail) ↔
      (entry.1 ∉ allowedAttributes tag.name ∧ mark <:+: lower entry.1) ∨
        entry.1 ∈ allowedAttributes tag.name ∧ entry.1 ∉ names ∧
          (marker.any fun text => !text.isEmpty && includes text entry.2) = false ∧
            entry.1 ∈ urlAttributes ∧ Url.hasAllowedProtocol entry.2 = false ∧
              mark <:+: entry.2 := by
  unfold refusal?
  generalize (marker.any fun text => !text.isEmpty && includes text entry.2) = holdsMarker
  generalize Url.hasAllowedProtocol entry.2 = hasProtocol
  by_cases isAllowed : entry.1 ∈ allowedAttributes tag.name
  · have noZeroInPlace := zero_not_mem_place noZero isAllowed
    have hidden : ¬ mark <:+: tag.place entry := by
      obtain ⟨others, rfl, _⟩ := isMark
      exact fun isInfix => noZeroInPlace (isInfix.subset (by simp))
    have shown : mark <:+: tag.place entry ++ '=' :: entry.2 ↔ mark <:+: entry.2 := by
      have inSign : mark <:+: ['='] ++ entry.2 ↔ mark <:+: entry.2 :=
        isMark.infix_append_iff (by decide)
      exact (isMark.infix_append_iff noZeroInPlace).trans inSign
    by_cases isKept : entry.1 ∈ names <;> cases holdsMarker <;>
      by_cases isUrl : entry.1 ∈ urlAttributes <;> cases hasProtocol <;>
        simp [isAllowed, isKept, isUrl, hidden, shown]
  · have shown : mark <:+: tag.place entry ↔ mark <:+: lower entry.1 := by
      apply isMark.infix_append_iff
      rw [List.mem_append, not_or]
      exact ⟨noZero, by decide⟩
    simp [isAllowed, shown]

/-- A record on a tag without a zero in its name shows a mark. -/
theorem exists_records_infix_iff
    (isMark : IsMark mark)
    (noZero : tag.survives allowed = true → '0' ∉ tag.name) :
    (∃ item, tag.Records allowed marker item ∧ mark <:+: item.detail) ↔
      tag.Shows allowed marker mark := by
  constructor
  · rintro ⟨item, records, isShown⟩
    cases records with
    | removed goes => exact .inTag goes isShown
    | refused survives isOpening shape isRefused =>
        rcases (exists_refusal?_infix_iff isMark (noZero survives)).mp
            ⟨item, isRefused, isShown⟩ with
          ⟨notAllowed, inName⟩ |
            ⟨isAllowed, isFirst, noMarker, isUrl, noProtocol, inAddress⟩
        · exact .inName survives isOpening (by simp [shape]) notAllowed inName
        · exact .inAddress survives isOpening shape isAllowed isFirst noMarker isUrl noProtocol
            inAddress
  · intro shows
    cases shows with
    | inTag goes isShown => exact ⟨_, .removed goes, isShown⟩
    | inName survives isOpening member notAllowed isShown =>
        obtain ⟨before, after, shape⟩ := List.append_of_mem member
        have refused : ∃ item,
            tag.refusal? marker (tag.acceptedNames marker before) _ = some item ∧
              mark <:+: item.detail :=
          (exists_refusal?_infix_iff isMark (noZero survives)).mpr (.inl ⟨notAllowed, isShown⟩)
        obtain ⟨item, isRefused, inItem⟩ := refused
        exact ⟨item, .refused survives isOpening shape isRefused, inItem⟩
    | inAddress survives isOpening shape isAllowed isFirst noMarker isUrl noProtocol isShown =>
        obtain ⟨item, isRefused, inItem⟩ := (exists_refusal?_infix_iff isMark
          (noZero survives)).mpr
            (.inr ⟨isAllowed, isFirst, noMarker, isUrl, noProtocol, isShown⟩)
        exact ⟨item, .refused survives isOpening shape isRefused, inItem⟩

end Records

end Markup.Tag

namespace ContentPolicy

variable {policy : ContentPolicy} (isInline : policy.IsInline)

include isInline

/-- What is recorded about a masked text is recorded about its tags. -/
theorem mem_dropped_sanitizeMasked_iff
    {masked : Masked}
    {item : DroppedItem} :
    item ∈ (policy.sanitizeMasked masked).dropped ↔
      ∃ element ∈ tags masked.text,
        element.Records policy.allowedTags (some masked.formattingMarker) item := by
  unfold sanitizeMasked
  split
  · rename_i noTags
    rw [List.isEmpty_iff.mp noTags]
    have onlyRemoved : ∀ element : Tag,
        element.Records [] (some masked.formattingMarker) item ↔
          ⟨element.dropKind, element.raw⟩ = item := by
      intro element
      have goes : element.survives [] = false := by
        simp [Tag.survives]
      constructor
      · intro records
        cases records with
        | removed => rfl
        | refused survives => simp [goes] at survives
      · rintro rfl
        exact .removed goes
    simp only [onlyRemoved]
    exact List.mem_map
  · rw [mem_dropped_sanitizeDetailed_iff, map_lower_allowedTags isInline]

/-- A record on a sanitized text shows a mark that is not in the text exactly if one on its
masked text does. -/
theorem exists_dropped_infix_iff
    {mark text : Text}
    (isMark : IsMark mark)
    (fresh : ¬ mark <:+: text) :
    (∃ item ∈ (policy.sanitize text).dropped, mark <:+: item.detail) ↔
      ∃ element ∈ tags (mask text policy.keepsFormatting).text,
        element.Shows policy.allowedTags
          (some (mask text policy.keepsFormatting).formattingMarker) mark := by
  have noZero : ∀ element : Tag, element.survives policy.allowedTags = true →
      '0' ∉ element.name := by
    intro element survives
    exact (inlineTags_sound _ (mem_allowedTags_of_survives isInline survives).2).2.1
  have notInToken : ∀ item ∈ (mask text policy.keepsFormatting).dropped,
      ¬ mark <:+: item.detail := by
    intro item member isShown
    obtain ⟨body, rfl, isInfix⟩ := exists_of_mem_dropped_maskFrom member
    exact fresh (isShown.trans isInfix)
  constructor
  · rintro ⟨item, member, isShown⟩
    rcases List.mem_append.mp member with isToken | isMarkup
    · exact absurd isShown (notInToken item isToken)
    · obtain ⟨element, isTag, records⟩ := (mem_dropped_sanitizeMasked_iff isInline).mp isMarkup
      exact ⟨element, isTag,
        (Tag.exists_records_infix_iff isMark (noZero element)).mp ⟨item, records, isShown⟩⟩
  · rintro ⟨element, isTag, shows⟩
    obtain ⟨item, records, isShown⟩ :=
      (Tag.exists_records_infix_iff isMark (noZero element)).mpr shows
    have isMarkup := (mem_dropped_sanitizeMasked_iff isInline).mpr ⟨element, isTag, records⟩
    exact ⟨item, List.mem_append_right _ isMarkup, isShown⟩

end ContentPolicy

namespace BlockType

/--
A text without the stem of placeholders is warned about with the stem exactly if the masked
text has a dropped tag with it, or a kept tag that loses an attribute with it: one whose name
is not allowed, or an address without an allowed protocol.
-/
theorem warnings_show_placeholder_iff
    (type : BlockType)
    {text : Text}
    (fresh : ¬ stemStart <:+: text) :
    (∃ warning ∈ (SanitizationReport.ofText type text).warnings, stemStart <:+: warning) ↔
      ∃ element ∈ tags (mask text type.policy.keepsFormatting).text,
        element.Shows type.policy.allowedTags
          (some (mask text type.policy.keepsFormatting).formattingMarker) stemStart := by
  rw [SanitizationReport.exists_warning_infix_iff isMark_stemStart,
    ContentPolicy.exists_dropped_infix_iff type.isInline_policy isMark_stemStart fresh]

/-- The address of this link is dropped, and the warning shows what stands for the token. -/
theorem warning_shows_placeholder_in_address :
    ∃ warning ∈
        (SanitizationReport.ofText .paragraph
          "<a href=\"javascript:\x7b\x7bemail\x7d\x7d\">x</a>").warnings,
      stemStart <:+: warning := by
  apply (warnings_show_placeholder_iff .paragraph (by decide +kernel)).mpr
  refine ⟨⟨false, "a", " href=\"javascript:0mbtoken0z\""⟩, by decide +kernel, ?_⟩
  have shape : Tag.attributes ⟨false, "a", " href=\"javascript:0mbtoken0z\""⟩ =
      [] ++ (("href" : Text), ("javascript:0mbtoken0z" : Text)) :: [] := by
    decide +kernel
  exact .inAddress (by decide +kernel) rfl shape (by decide +kernel) (by decide +kernel)
    (by decide +kernel) (by decide +kernel) (by decide +kernel) ⟨"javascript:", "0z", by decide⟩

/-- The warning about this tag shows what stands for its token. -/
theorem warning_shows_placeholder_in_tag :
    ¬ ∀ type text,
      ¬ stemStart <:+: text →
      ∀ warning ∈ (SanitizationReport.ofText type text).warnings, ¬ stemStart <:+: warning := by
  intro shownNowhere
  have fresh : ¬ stemStart <:+: ("<script \x7b\x7bfirstName\x7d\x7d>" : Text) := by
    decide +kernel
  have warned : ("Removed dangerous tag: <script 0mbtoken0z>" : Text) ∈
      (SanitizationReport.ofText .paragraph
        "<script \x7b\x7bfirstName\x7d\x7d>").warnings := by
    decide +kernel
  exact shownNowhere .paragraph _ fresh _ warned
    ⟨"Removed dangerous tag: <script ", "0z>", by decide⟩

/-- Where masking finds no token, only the name of a dropped attribute, put in lower case, can
show the stem of placeholders. -/
theorem exists_name_of_nothing_masked
    {type : BlockType}
    {text : Text}
    (fresh : ¬ stemStart <:+: text)
    (noPlaceholder : (mask text type.policy.keepsFormatting).placeholders = [])
    (nothingDropped : (mask text type.policy.keepsFormatting).dropped = [])
    {warning : Text}
    (isWarning : warning ∈ (SanitizationReport.ofText type text).warnings)
    (isShown : stemStart <:+: warning) :
    ∃ element ∈ tags text, ∃ entry ∈ element.attributes, stemStart <:+: lower entry.1 := by
  obtain ⟨element, isTag, shows⟩ :=
    (ContentPolicy.exists_dropped_infix_iff type.isInline_policy isMark_stemStart fresh).mp
      ((SanitizationReport.exists_warning_infix_iff isMark_stemStart).mp
        ⟨warning, isWarning, isShown⟩)
  have unchanged : (mask text type.policy.keepsFormatting).text = text :=
    maskFrom_of_nothing_masked noPlaceholder nothingDropped
  rw [unchanged] at isTag
  cases shows with
  | inTag _ inTag => exact absurd (inTag.trans (raw_infix_of_mem_tags isTag)) fresh
  | inName _ _ member _ inName => exact ⟨element, isTag, _, member, inName⟩
  | @inAddress _ _ before after entry shape _ _ _ _ _ inAddress =>
      have member : entry ∈ element.attributes := by
        simp [shape]
      have inText := (infix_of_mem_attributes member).trans (infix_of_mem_tags isTag)
      exact absurd (inAddress.trans inText) fresh

end BlockType

end EmailComposer
