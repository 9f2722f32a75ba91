import EmailComposer.Content.Policy
import EmailComposer.Proofs.Markup.Sanitize
import EmailComposer.Proofs.Token.Restore

namespace EmailComposer

/-!
# What sanitized text says

The sanitized text of a block is read back as the allowed tags of the masked text, in
normal form, with the tokens put back into the addresses of their links. Tokens never
make a tag, whatever they stand next to.
-/

open EmailComposer.Text
open EmailComposer.Markup
open EmailComposer.Token

namespace ContentPolicy

/-- The policy allows no tags but those inside a line. -/
def IsInline (policy : ContentPolicy) : Prop :=
  ∀ name ∈ policy.allowedTags, name ∈ inlineTags

/-- Inline tags are harmless, and only links carry an attribute. -/
theorem inlineTags_sound :
    ∀ name ∈ inlineTags,
      lower name = name ∧ '0' ∉ name ∧ name ∉ dangerousTags ∧
        (allowedAttributes name = [] ∨ name = "a") := by
  decide

/-- What a tag of a masked text says after sanitizing, with the tokens put back. -/
def finalForm (masked : Masked) (tag : Tag) : TagView :=
  (tag.normalForm (some masked.formattingMarker)).mapValues (restore · masked.placeholders)

section Masked

variable {policy : ContentPolicy} (isInline : policy.IsInline) (masked : Masked)

include isInline

theorem map_lower_allowedTags :
    policy.allowedTags.map lower = policy.allowedTags := by
  have kept : ∀ name ∈ policy.allowedTags, lower name = name :=
    fun name isAllowed => (inlineTags_sound name (isInline name isAllowed)).1
  rw [List.map_congr_left kept, List.map_id']

/-- Sanitized, a masked text keeps its allowed tags in normal form. -/
theorem tags_sanitizeMasked :
    tags (policy.sanitizeMasked masked).html =
      ((tags masked.text).filter (Tag.survives policy.allowedTags)).map fun element =>
        (element.normalForm (some masked.formattingMarker)).print := by
  unfold sanitizeMasked
  split
  · rename_i noTags
    rw [List.isEmpty_iff] at noTags
    have noBracket : '<' ∉ (sanitizePlain masked.text).html :=
      fun member => mem_escape member (by simp)
    have noneSurvives : ∀ element ∈ tags masked.text, ¬ element.survives [] = true := by
      simp [Tag.survives]
    rw [(tags_and_contents_of_noBracket noBracket).1, noTags,
      List.filter_eq_nil_iff.mpr noneSurvives, List.map_nil]
  · rw [tags_sanitizeDetailed, map_lower_allowedTags isInline]

omit isInline in
/-- Between the tags of a sanitized masked text stands escaped text. -/
theorem exists_contents_sanitizeMasked
    (policy : ContentPolicy) :
    ∃ plain, contents (policy.sanitizeMasked masked).html = escape plain := by
  unfold sanitizeMasked
  split
  · have noBracket : '<' ∉ (sanitizePlain masked.text).html :=
      fun member => mem_escape member (by simp)
    exact ⟨_, (tags_and_contents_of_noBracket noBracket).2⟩
  · exact ⟨_, contents_sanitizeDetailed⟩

omit isInline in
theorem isNoBracket_contents_sanitizeMasked :
    ∀ char ∈ contents (policy.sanitizeMasked masked).html, isNoBracket char = true := by
  obtain ⟨plain, shape⟩ := exists_contents_sanitizeMasked masked policy
  intro char member
  rw [shape] at member
  have isSafe := mem_escape member
  simp only [List.mem_cons, List.not_mem_nil, or_false, not_or] at isSafe
  simp [isNoBracket, isSafe]

end Masked

section Sanitized

variable {policy : ContentPolicy} (isInline : policy.IsInline)

include isInline

theorem mem_allowedTags_of_survives
    {element : Tag}
    (survives : element.survives policy.allowedTags = true) :
    element.name ∈ policy.allowedTags ∧ element.name ∈ inlineTags := by
  simp only [Tag.survives, Bool.and_eq_true, decide_eq_true_eq] at survives
  exact ⟨survives.1, isInline _ survives.1⟩

/-- The segments of a sanitized text are those of the sanitized masked text, with the
tokens put back into each of them. -/
theorem segments_sanitize
    (text : Text) :
    segments (policy.sanitize text).html =
      (segments (policy.sanitizeMasked (mask text policy.keepsFormatting)).html).map
        (Segment.mapText (restore · (mask text policy.keepsFormatting).placeholders)) := by
  refine segments_restore (isPlaceholder_mask text _) (readable_segments ?_) ?_
  · intro member
    exact absurd (isNoBracket_contents_sanitizeMasked _ '<' member) (by decide)
  · intro element isTag
    rw [tags_sanitizeMasked isInline] at isTag
    obtain ⟨source, member, rfl⟩ := List.mem_map.mp isTag
    have survives := (List.mem_filter.mp member).2
    exact (inlineTags_sound _ (mem_allowedTags_of_survives isInline survives).2).2.1

/-- No bracket stands between the tags of a sanitized text. -/
theorem isNoBracket_contents_sanitize
    (text : Text) :
    ∀ char ∈ contents (policy.sanitize text).html, isNoBracket char = true := by
  intro char member
  rw [contents, segments_sanitize isInline, List.mem_flatMap] at member
  obtain ⟨segment, isSegment, inContent⟩ := member
  obtain ⟨source, isSource, rfl⟩ := List.mem_map.mp isSegment
  cases source with
  | tag element => cases inContent
  | text plain =>
      have noBracket : ∀ other ∈ plain, isNoBracket other = true :=
        fun other inPlain => isNoBracket_contents_sanitizeMasked _ other
          (mem_contents isSource inPlain)
      exact isNoBracket_restore (isPlaceholder_mask text _) noBracket char inContent

/-- A surviving tag carries a link address if it carries anything: an opening `a` with
the escaped value of an accepted `href`. -/
theorem attributes_normalForm
    {element : Tag}
    (survives : element.survives policy.allowedTags = true)
    (marker : Option Text) :
    (element.normalForm marker).attributes = [] ∨
      (element.closing = false ∧ element.name = "a") ∧
        ∃ source ∈ element.attributes,
          element.accepts marker source = true ∧ source.1 = "href" ∧
            (element.normalForm marker).attributes = [(("href" : Text), escape source.2)] := by
  cases isClosing : element.closing with
  | true => exact .inl (by simp [Tag.normalForm, isClosing])
  | false =>
      have shape : (element.normalForm marker).attributes = element.keptAttributes marker := by
        simp [Tag.normalForm, isClosing]
      rw [shape]
      have nameShape := (inlineTags_sound _ (mem_allowedTags_of_survives isInline survives).2)
      rcases nameShape.2.2.2 with noneAllowed | isLink
      · refine .inl (List.eq_nil_iff_forall_not_mem.mpr fun entry member => ?_)
        obtain ⟨source, _, isAccepted, _⟩ := Tag.exists_of_mem_keptAttributes member
        have isAllowed := Tag.mem_allowedAttributes_of_accepts isAccepted
        rw [noneAllowed] at isAllowed
        cases isAllowed
      · -- A link may carry one name only, so the first accepted entry is all that is kept.
        have oneName : ∀ entry ∈ element.attributes.filter (element.accepts marker),
            entry.1 = "href" := by
          intro entry member
          have isAllowed := Tag.mem_allowedAttributes_of_accepts (List.mem_filter.mp member).2
          rw [isLink] at isAllowed
          exact List.mem_singleton.mp isAllowed
        rw [Tag.keptAttributes, firstOfEach_of_one_name oneName]
        cases accepted : element.attributes.filter (element.accepts marker) with
        | nil => exact .inl rfl
        | cons source rest =>
            have isFirst : source ∈ element.attributes.filter (element.accepts marker) := by
              simp [accepted]
            obtain ⟨inTag, isAccepted⟩ := List.mem_filter.mp isFirst
            have isAddress := oneName source isFirst
            exact .inr ⟨⟨rfl, isLink⟩, source, inTag, isAccepted, isAddress,
              by simp [isAddress]⟩

/-- The tags of a sanitized text are the surviving tags of the masked text in their final
form. -/
theorem tags_sanitize
    (text : Text) :
    tags (policy.sanitize text).html =
      ((tags (mask text policy.keepsFormatting).text).filter
          (Tag.survives policy.allowedTags)).map fun element =>
        (finalForm (mask text policy.keepsFormatting) element).print := by
  have mapped : ∀ (change : Text → Text) (parts : List Segment),
      (parts.map (Segment.mapText change)).filterMap Segment.tag? =
        (parts.filterMap Segment.tag?).map fun element =>
          { element with body := change element.body } := by
    intro change parts
    rw [List.filterMap_map, List.map_filterMap]
    congr 1
    funext segment
    cases segment <;> rfl
  have sanitizedTags := tags_sanitizeMasked isInline (mask text policy.keepsFormatting)
  rw [tags] at sanitizedTags
  rw [tags, segments_sanitize isInline, mapped, sanitizedTags, List.map_map]
  refine List.map_congr_left fun element member => ?_
  have survives := (List.mem_filter.mp member).2
  have noZero : ∀ entry ∈ (element.normalForm
      (some (mask text policy.keepsFormatting).formattingMarker)).attributes, '0' ∉ entry.1 := by
    intro entry isEntry
    rcases attributes_normalForm isInline survives _ with none | ⟨_, _, _, _, _, one⟩
    · rw [none] at isEntry
      cases isEntry
    · rw [one, List.mem_singleton] at isEntry
      rw [isEntry]
      show '0' ∉ ("href" : Text)
      decide
  exact congrArg (Tag.mk element.closing element.name)
    (restore_body (isPlaceholder_mask text _) noZero)

omit isInline in
/-- In the one address that a tag keeps, tokens are put back before it is escaped. -/
theorem attributes_finalForm_of_accepts
    {text : Text}
    {element : Tag}
    {source : Attribute}
    (isAccepted :
      element.accepts (some (mask text policy.keepsFormatting).formattingMarker) source = true)
    (one :
      (element.normalForm (some (mask text policy.keepsFormatting).formattingMarker)).attributes =
        [(("href" : Text), escape source.2)]) :
    (finalForm (mask text policy.keepsFormatting) element).attributes =
      [(("href" : Text),
        escape (restore source.2 (mask text policy.keepsFormatting).placeholders))] := by
  have isMarker := isMark_formattingMarker text policy.keepsFormatting
  have noMarker := Tag.not_infix_of_accepts isMarker.ne_nil isAccepted
  simp [finalForm, TagView.mapValues, one,
    restore_escape isMarker (isPlaceholder_mask text _) noMarker]

/-- A surviving tag of a masked text carries in its final form the address of a link with
the tokens put back and an allowed protocol, or nothing. -/
theorem attributes_finalForm
    (text : Text)
    {element : Tag}
    (survives : element.survives policy.allowedTags = true) :
    (finalForm (mask text policy.keepsFormatting) element).attributes = [] ∨
      (element.closing = false ∧ element.name = "a") ∧
        ∃ source ∈ element.attributes,
          element.accepts (some (mask text policy.keepsFormatting).formattingMarker) source =
              true ∧
            Url.hasAllowedProtocol
                (restore source.2 (mask text policy.keepsFormatting).placeholders) = true ∧
              (finalForm (mask text policy.keepsFormatting) element).attributes =
                [(("href" : Text),
                  escape (restore source.2 (mask text policy.keepsFormatting).placeholders))] := by
  rcases attributes_normalForm isInline survives
      (some (mask text policy.keepsFormatting).formattingMarker) with
      none | ⟨isLink, source, inTag, isAccepted, isAddress, one⟩
  · exact .inl (by simp [finalForm, TagView.mapValues, none])
  · have isUrl : source.1 ∈ urlAttributes := by
      rw [isAddress]
      decide
    have protocol := hasAllowedProtocol_restore (isPlaceholder_mask text policy.keepsFormatting)
      (Tag.hasAllowedProtocol_of_accepts isUrl isAccepted)
    exact .inr ⟨isLink, source, inTag, isAccepted, protocol,
      attributes_finalForm_of_accepts isAccepted one⟩

theorem printable_finalForm
    (text : Text)
    {element : Tag}
    (wellFormed : element.WellFormed)
    (survives : element.survives policy.allowedTags = true) :
    (finalForm (mask text policy.keepsFormatting) element).Printable where
  name := wellFormed.isTagName
  attributes := by
    intro entry isEntry
    rcases attributes_finalForm isInline text survives with none | ⟨_, _, _, _, _, one⟩
    · rw [none] at isEntry
      cases isEntry
    · rw [one, List.mem_singleton] at isEntry
      rw [isEntry]
      have isAllowed : ("href" : Text) ∈ allowedAttributes "a" := by
        decide
      exact (isAttributeWord_of_allowed isAllowed).isPrintable _

theorem attributes_print_finalForm
    {text : Text}
    {element : Tag}
    (isElement : element ∈ tags (mask text policy.keepsFormatting).text)
    (survives : element.survives policy.allowedTags = true) :
    (finalForm (mask text policy.keepsFormatting) element).print.attributes =
      (finalForm (mask text policy.keepsFormatting) element).attributes :=
  TagView.attributes_print
    (printable_finalForm isInline text (wellFormed_of_mem_tags isElement) survives)

end Sanitized

end ContentPolicy

theorem BlockType.isInline_policy
    (type : BlockType) :
    type.policy.IsInline := by
  cases type <;> (unfold ContentPolicy.IsInline; decide)

/--
Sanitized text is clean: no bracket stands between its tags, its tags are allowed ones and
never dangerous, and none of them carries anything but the address of a link with an
allowed protocol.
-/
theorem BlockType.sanitizeText_clean
    (type : BlockType)
    (text : Text) :
    (∀ raw, .text raw ∈ segments (type.sanitizeText text) → '<' ∉ raw ∧ '>' ∉ raw) ∧
      ∀ tag ∈ tags (type.sanitizeText text),
        tag.name ∈ type.policy.allowedTags ∧ tag.name ∉ dangerousTags ∧
          (tag.attributes = [] ∨
            tag.closing = false ∧ tag.name = "a" ∧
              ∃ value,
                tag.attributes = [(("href" : Text), value)] ∧
                  Url.hasAllowedProtocol (unescape value) = true) := by
  have isInline := type.isInline_policy
  constructor
  · intro raw isSegment
    have noBracket := ContentPolicy.isNoBracket_contents_sanitize isInline text
    exact ⟨fun member => absurd (noBracket '<' (mem_contents isSegment member)) (by decide),
      fun member => absurd (noBracket '>' (mem_contents isSegment member)) (by decide)⟩
  · intro tag isTag
    rw [sanitizeText, ContentPolicy.tags_sanitize isInline] at isTag
    obtain ⟨element, member, rfl⟩ := List.mem_map.mp isTag
    obtain ⟨isElement, survives⟩ := List.mem_filter.mp member
    obtain ⟨isAllowed, isInlineTag⟩ :=
      ContentPolicy.mem_allowedTags_of_survives isInline survives
    have sameName : (ContentPolicy.finalForm
        (mask text type.policy.keepsFormatting) element).print.name = element.name :=
      (wellFormed_of_mem_tags isElement).isTagName.isLower
    rw [sameName, ContentPolicy.attributes_print_finalForm isInline isElement survives]
    refine ⟨isAllowed, (ContentPolicy.inlineTags_sound _ isInlineTag).2.2.1, ?_⟩
    rcases ContentPolicy.attributes_finalForm isInline text survives with
        none | ⟨⟨isOpening, isLink⟩, source, _, _, protocol, one⟩
    · exact .inl none
    · refine .inr ⟨isOpening, isLink, _, one, ?_⟩
      rw [unescape_escape]
      exact protocol

end EmailComposer
