import EmailComposer.Proofs.Content.Policy
import EmailComposer.Proofs.Token.Masked

namespace EmailComposer

/-!
# Formatting markers in link addresses

Formatting tokens expand to markup, so none may stand in the address of a link. The
filter looks for their placeholders in the masked text. What it cannot see is an opener
that comes up there only when an unknown token is cut out of it; apart from these,
addresses hold no marker.
-/

open EmailComposer.Text
open EmailComposer.Markup
open EmailComposer.Token

/-- Escaped text holds no closing marker. -/
theorem holdsMarker_escape
    {text : Text} :
    HoldsMarker (escape text) ↔ HoldsOpener (escape text) := by
  constructor
  · rintro (holds | ⟨kind, isInfix⟩)
    · exact holds
    · have slash : '/' ∈ closingMarker kind := by
        cases kind <;> decide
      exact absurd (by simp) (mem_escape (isInfix.subset slash))
  · exact Or.inl

/-- An attribute value of a masked text is settled. -/
theorem settled_of_mem_attributes
    {text : Text}
    {keepsFormatting : Bool}
    {element : Tag}
    (isTag : element ∈ tags (mask text keepsFormatting).text)
    {entry : Attribute}
    (isEntry : entry ∈ element.attributes) :
    Settled (stemFor text) entry.2 := by
  have settled : Settled (stemFor text) (mask text keepsFormatting).text :=
    settled_maskFrom (isMark_stemFor text) (not_infix_stemFor text) 0
  exact settled.of_infix ((infix_of_mem_attributes isEntry).trans (infix_of_mem_tags isTag))

namespace ContentPolicy

variable {policy : ContentPolicy} (isInline : policy.IsInline)

include isInline

/-- The final form of a tag holds a marker exactly if its normal form in the masked text
holds an opener. -/
theorem exists_marker_finalForm_iff
    {text : Text}
    {element : Tag}
    (isTag : element ∈ tags (mask text policy.keepsFormatting).text)
    (survives : element.survives policy.allowedTags = true) :
    (∃ entry ∈ (finalForm (mask text policy.keepsFormatting) element).attributes,
        HoldsMarker entry.2) ↔
      ∃ entry ∈ (element.normalForm
          (some (mask text policy.keepsFormatting).formattingMarker)).attributes,
        HoldsOpener entry.2 := by
  rcases attributes_normalForm isInline survives
      (some (mask text policy.keepsFormatting).formattingMarker) with
      none | ⟨_, source, isSource, isAccepted, _, one⟩
  · simp [finalForm, TagView.mapValues, none]
  · have isMarker := isMark_formattingMarker text policy.keepsFormatting
    have noMarker := Tag.not_infix_of_accepts isMarker.ne_nil isAccepted
    have restored := holdsOpener_restore isMarker (isMark_stemFor text)
      (isPlaceholder_mask text policy.keepsFormatting) (stem_prefix_of_mem_mask text _) noMarker
      (settled_of_mem_attributes isTag isSource)
    simp only [attributes_finalForm_of_accepts isAccepted one, one, List.mem_singleton,
      exists_eq_left]
    rw [holdsMarker_escape, holdsOpener_escape, holdsOpener_escape]
    exact restored

/-- An attribute of a sanitized text holds a marker exactly if the normal form of a
surviving tag of the masked text holds an opener. -/
theorem exists_marker_sanitize_iff
    (text : Text) :
    (∃ tag ∈ tags (policy.sanitize text).html, ∃ entry ∈ tag.attributes,
        HoldsMarker entry.2) ↔
      ∃ element ∈ tags (mask text policy.keepsFormatting).text,
        element.survives policy.allowedTags = true ∧
          ∃ entry ∈ (element.normalForm
              (some (mask text policy.keepsFormatting).formattingMarker)).attributes,
            HoldsOpener entry.2 := by
  rw [tags_sanitize isInline]
  constructor
  · rintro ⟨tag, isTag, holds⟩
    obtain ⟨element, member, rfl⟩ := List.mem_map.mp isTag
    obtain ⟨isElement, survives⟩ := List.mem_filter.mp member
    rw [attributes_print_finalForm isInline isElement survives] at holds
    exact ⟨element, isElement, survives,
      (exists_marker_finalForm_iff isInline isElement survives).mp holds⟩
  · rintro ⟨element, isElement, survives, holds⟩
    refine ⟨_, List.mem_map_of_mem (List.mem_filter.mpr ⟨isElement, survives⟩), ?_⟩
    rw [attributes_print_finalForm isInline isElement survives]
    exact (exists_marker_finalForm_iff isInline isElement survives).mpr holds

end ContentPolicy

/--
No attribute of a sanitized paragraph holds a formatting marker, exactly if no link
address that is kept from the masked text holds an opener. Masking itself leaves none, so
such an opener was joined where an unknown token was cut out.
-/
theorem BlockType.paragraph_markers_iff
    (text : Text) :
    (∀ tag ∈ tags (BlockType.paragraph.sanitizeText text), ∀ entry ∈ tag.attributes,
        ¬ HoldsMarker entry.2) ↔
      ∀ element ∈ tags (mask text true).text,
        element.survives BlockType.paragraph.policy.allowedTags = true →
          ∀ entry ∈ (element.normalForm (some (mask text true).formattingMarker)).attributes,
            ¬ HoldsOpener entry.2 := by
  have negated := not_congr
    (ContentPolicy.exists_marker_sanitize_iff BlockType.paragraph.isInline_policy text)
  simp only [not_exists, not_and] at negated
  exact negated

/-- Cutting the unknown token out of this address joins an opening marker. -/
theorem BlockType.paragraph_marker_joined :
    ¬ ∀ tag ∈ tags (BlockType.paragraph.sanitizeText
        "<a href=\"https://x/\x7b\x7bbold:#fff\x7d\x7b\x7bx\x7d\x7d\x7d\">y</a>"),
      ∀ entry ∈ tag.attributes, ¬ HoldsMarker entry.2 := by
  intro clean
  have address : (("href", "https:&#x2F;&#x2F;x&#x2F;\x7b\x7bbold:#fff\x7d\x7d") : Attribute) ∈
      (tags (BlockType.paragraph.sanitizeText
        "<a href=\"https://x/\x7b\x7bbold:#fff\x7d\x7b\x7bx\x7d\x7d\x7d\">y</a>")).flatMap
          Tag.attributes := by
    decide +kernel
  obtain ⟨tag, isTag, isEntry⟩ := List.mem_flatMap.mp address
  refine clean tag isTag _ isEntry (.inl ⟨.bold, "#fff", by decide, ?_⟩)
  exact ⟨"https:&#x2F;&#x2F;x&#x2F;", [], by decide⟩

/-- Where masking cuts nothing out, no attribute of a sanitized paragraph holds a marker. -/
theorem BlockType.paragraph_no_marker_of_nothing_dropped
    {text : Text}
    (nothingDropped : (mask text true).dropped = []) :
    ∀ tag ∈ tags (BlockType.paragraph.sanitizeText text), ∀ entry ∈ tag.attributes,
      ¬ HoldsMarker entry.2 := by
  have isInline := BlockType.paragraph.isInline_policy
  intro tag isTag entry isEntry holds
  obtain ⟨element, isElement, survives, address, isAddress, opens⟩ :=
    (ContentPolicy.exists_marker_sanitize_iff isInline text).mp ⟨tag, isTag, entry, isEntry, holds⟩
  replace isAddress : address ∈ (element.normalForm
      (some (mask text true).formattingMarker)).attributes := isAddress
  rcases ContentPolicy.attributes_normalForm isInline survives
      (some (mask text true).formattingMarker) with none | ⟨_, source, isSource, _, _, one⟩
  · rw [none] at isAddress
    cases isAddress
  · rw [one, List.mem_singleton] at isAddress
    rw [isAddress, holdsOpener_escape] at opens
    have noneMasked : ¬ HoldsOpener (mask text true).text :=
      not_holdsOpener_maskFrom (isMark_stemFor text) nothingDropped
    exact noneMasked (opens.of_infix
      ((infix_of_mem_attributes isSource).trans (infix_of_mem_tags isElement)))

end EmailComposer
