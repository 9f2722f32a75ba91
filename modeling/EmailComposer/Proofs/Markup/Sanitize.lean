import EmailComposer.Proofs.Markup.Entity
import EmailComposer.Proofs.Markup.Filter
import EmailComposer.Proofs.Markup.Tag

namespace EmailComposer.Markup

/-!
# What sanitized markup says

Sanitized markup is printed from the allowed tags in normal form and from escaped
text. Reading it back gives these tags again, and the escaped text between them.
-/

open EmailComposer.Text

namespace Tag

/-- The tag is allowed and not dangerous. -/
def survives (allowed : List Text) (tag : Tag) : Bool :=
  tag.name ∈ allowed && tag.name ∉ dangerousTags

/-- The tag may carry the attribute: its name is allowed, its value does not hold the
marker, and if it is a URL its protocol is allowed. -/
def accepts (marker : Option Text) (tag : Tag) (entry : Attribute) : Bool :=
  entry.1 ∈ allowedAttributes tag.name &&
    !(marker.any fun text => !text.isEmpty && includes text entry.2) &&
    !(entry.1 ∈ urlAttributes && !Url.hasAllowedProtocol entry.2)

/-- The first accepted attribute of every name, with its value escaped. -/
def keptAttributes (marker : Option Text) (tag : Tag) : List Attribute :=
  (firstOfEach (tag.attributes.filter (tag.accepts marker))).map fun entry =>
    (entry.1, escape entry.2)

/-- What a tag says after sanitizing: a closing tag its name, an opening tag also
whether it closes itself and its kept attributes. -/
def normalForm (marker : Option Text) (tag : Tag) : TagView where
  closing := tag.closing
  name := tag.name
  selfClosing := !tag.closing && tag.selfClosing
  attributes := if tag.closing then [] else tag.keptAttributes marker

end Tag

/-- The segment that a segment becomes, if it is not dropped. -/
def Segment.clean (allowed : List Text) (marker : Option Text) : Segment → Option Segment
  | .text raw => some (.text (escape raw))
  | .tag element =>
      if element.survives allowed then
        some (.tag (element.normalForm marker).print)
      else
        none

/-- The words of allowed attributes are plain, and none of them is dangerous. -/
structure IsAttributeWord (name : Text) : Prop where
  plain : IsPlainWord name
  notDangerous : isDangerousAttribute name = false
  isLower : lower name = name
  notEmpty : name ≠ []
  nameChars : ∀ char ∈ name, isAttributeNameChar char = true

/-- The names that some tag allows. -/
theorem mem_of_mem_allowedAttributes
    {tagName name : Text}
    (isAllowed : name ∈ allowedAttributes tagName) :
    name ∈ (["href", "src", "alt", "width", "height"] : List Text) := by
  unfold allowedAttributes at isAllowed
  split at isAllowed
  · simp only [List.mem_cons, List.not_mem_nil, or_false] at isAllowed ⊢
    exact .inl isAllowed
  · split at isAllowed
    · exact List.mem_cons_of_mem _ isAllowed
    · simp at isAllowed

/-- Only such words are allowed. -/
theorem isAttributeWord_of_allowed
    {tagName name : Text}
    (isAllowed : name ∈ allowedAttributes tagName) :
    IsAttributeWord name := by
  have isListed := mem_of_mem_allowedAttributes isAllowed
  simp only [List.mem_cons, List.not_mem_nil, or_false] at isListed
  rcases isListed with rfl | rfl | rfl | rfl | rfl <;>
    exact ⟨by decide, by decide, by decide, by decide, by decide⟩

/-- An attribute with an allowed name and an escaped value is read back. -/
theorem IsAttributeWord.isPrintable
    {name : Text}
    (isWord : IsAttributeWord name)
    (value : Text) :
    IsPrintable (name, escape value) where
  hasName := isWord.notEmpty
  nameChars := isWord.nameChars
  isLower := isWord.isLower
  valueChars := by
    intro char inValue isListed
    apply mem_escape inValue
    simp only [List.mem_cons, List.not_mem_nil, or_false] at isListed ⊢
    tauto

theorem map_lower_allowedAttributes
    (tagName : Text) :
    (allowedAttributes tagName).map lower = allowedAttributes tagName :=
  (List.map_congr_left fun _ isAllowed => (isAttributeWord_of_allowed isAllowed).isLower).trans
    (List.map_id' _)

/-- The names of the attributes of a tag are in lower case. -/
theorem Tag.isLower_of_mem_attributes
    {tag : Tag}
    {entry : Attribute}
    (member : entry ∈ tag.attributes) :
    ∃ spelling, entry.1 = lower spelling := by
  obtain ⟨text, rest, _, found⟩ := exists_readAttribute?_eq_some member
  unfold readAttribute? at found
  split at found
  · cases found
  · dsimp only at found
    split at found <;> cases found <;> exact ⟨_, rfl⟩

section Filter

variable {marker : Option Text} {tag : Tag}

/-- The name of an attribute is allowed exactly if it is in lower case. -/
theorem Tag.lower_mem_allowedAttributes
    {entry : Attribute}
    (member : entry ∈ tag.attributes) :
    lower entry.1 ∈ allowedAttributes tag.name ↔ entry.1 ∈ allowedAttributes tag.name := by
  constructor
  · intro isAllowed
    obtain ⟨spelling, isLower⟩ := isLower_of_mem_attributes member
    rw [isLower] at isAllowed ⊢
    rwa [(lower_lower_eq_iff (isAttributeWord_of_allowed isAllowed).plain).mp rfl]
  · intro isAllowed
    rwa [(isAttributeWord_of_allowed isAllowed).isLower]

/-- Of the attributes of a tag the filter admits those that the tag may carry. -/
theorem Tag.admits_lowerName
    {entry : Attribute}
    (member : entry ∈ tag.attributes) :
    admits (allowedAttributes tag.name) marker (lowerName entry) = tag.accepts marker entry := by
  by_cases isAllowed : entry.1 ∈ allowedAttributes tag.name
  · have isWord := isAttributeWord_of_allowed isAllowed
    simp [admits, lowerName, isWord.isLower, isWord.notDangerous, isAllowed, accepts, holdsMarker,
      isUnsafeUrl]
  · have notAllowed := mt (Tag.lower_mem_allowedAttributes member).mp isAllowed
    simp [admits, lowerName, notAllowed, isAllowed, accepts]

theorem Tag.lowerName_of_accepts
    {entry : Attribute}
    (isAccepted : tag.accepts marker entry = true) :
    lowerName entry = entry := by
  simp only [accepts, Bool.and_eq_true, decide_eq_true_eq] at isAccepted
  rw [lowerName, (isAttributeWord_of_allowed isAccepted.1.1).isLower]

/-- The filter keeps an accepted attribute, unless its name has been kept before. -/
theorem FilteredAttributes.kept_add_of_mem
    {entry : Attribute}
    (member : entry ∈ tag.attributes)
    (filtered : FilteredAttributes) :
    (filtered.add tag.name (allowedAttributes tag.name) marker entry).kept =
      if tag.accepts marker entry ∧ entry.1 ∉ filtered.kept.map Prod.fst then
        filtered.kept ++ [(entry.1, escape entry.2)]
      else
        filtered.kept := by
  rw [kept_add, Tag.admits_lowerName member]
  by_cases isAccepted : tag.accepts marker entry = true
  · rw [Tag.lowerName_of_accepts isAccepted]
    rfl
  · simp [isAccepted]

/-- The filter keeps the first accepted attribute of every name. -/
theorem kept_filterAttributes :
    (filterAttributes tag.name tag.attributes (allowedAttributes tag.name) marker).kept =
      tag.keptAttributes marker := by
  have admitted : (tag.attributes.map lowerName).filter
      (admits (allowedAttributes tag.name) marker) =
        tag.attributes.filter (tag.accepts marker) := by
    have sameChoice : ∀ entry ∈ tag.attributes,
        (admits (allowedAttributes tag.name) marker ∘ lowerName) entry =
          tag.accepts marker entry :=
      fun _ => Tag.admits_lowerName
    have unchanged : ∀ entry ∈ tag.attributes.filter (tag.accepts marker),
        lowerName entry = entry :=
      fun _ member => Tag.lowerName_of_accepts (List.mem_filter.mp member).2
    rw [List.filter_map, List.filter_congr sameChoice, List.map_congr_left unchanged,
      List.map_id']
  rw [kept_filterAttributes_eq, map_lower_allowedAttributes, admitted]
  rfl

/-- Every kept attribute is an accepted one with its value escaped. -/
theorem Tag.exists_of_mem_keptAttributes
    {entry : Attribute}
    (member : entry ∈ tag.keptAttributes marker) :
    ∃ source ∈ tag.attributes,
      tag.accepts marker source = true ∧ entry = (source.1, escape source.2) := by
  obtain ⟨source, isFirst, same⟩ := List.mem_map.mp member
  obtain ⟨inTag, isAccepted⟩ := List.mem_filter.mp (mem_of_mem_firstOfEach isFirst)
  exact ⟨source, inTag, isAccepted, same.symm⟩

theorem Tag.mem_allowedAttributes_of_accepts
    {entry : Attribute}
    (isAccepted : tag.accepts marker entry = true) :
    entry.1 ∈ allowedAttributes tag.name := by
  simp only [accepts, Bool.and_eq_true, decide_eq_true_eq] at isAccepted
  exact isAccepted.1.1

theorem Tag.not_infix_of_accepts
    {text : Text}
    (notEmpty : text ≠ [])
    {entry : Attribute}
    (isAccepted : tag.accepts (some text) entry = true) :
    ¬ text <:+: entry.2 := by
  intro isInfix
  simp [accepts, includes_iff.mpr isInfix, notEmpty] at isAccepted

theorem Tag.hasAllowedProtocol_of_accepts
    {entry : Attribute}
    (isUrl : entry.1 ∈ urlAttributes)
    (isAccepted : tag.accepts marker entry = true) :
    Url.hasAllowedProtocol entry.2 = true := by
  simp only [accepts, isUrl, decide_true, Bool.true_and, Bool.not_not, Bool.and_eq_true]
    at isAccepted
  exact isAccepted.2

end Filter

/-- The name of a well-formed tag is read back in lower case. -/
theorem Tag.WellFormed.isTagName
    {tag : Tag}
    (wellFormed : tag.WellFormed) :
    IsTagName tag.name := by
  have spelled : tag.name = tag.spelling.map lowerAscii :=
    lower_of_ascii fun char member =>
      toNat_lt_of_isAsciiAlphanumeric (wellFormed.alphanumeric char member)
  have lowered : ∀ char, isAsciiAlphanumeric char = true →
      isAsciiAlphanumeric (lowerAscii char) = true ∧
        (isAsciiLetter char = true → isAsciiLetter (lowerAscii char) = true) := by
    intro char alphanumeric
    exact forall_ascii
      (motive := fun char => isAsciiAlphanumeric char = true →
        isAsciiAlphanumeric (lowerAscii char) = true ∧
          (isAsciiLetter char = true → isAsciiLetter (lowerAscii char) = true))
      (by decide +kernel) (toNat_lt_of_isAsciiAlphanumeric alphanumeric) alphanumeric
  have alphanumeric : ∀ char ∈ tag.name, isAsciiAlphanumeric char = true := by
    intro char member
    rw [spelled] at member
    obtain ⟨source, isSource, rfl⟩ := List.mem_map.mp member
    exact (lowered source (wellFormed.alphanumeric source isSource)).1
  obtain ⟨first, others, shape, letter⟩ := wellFormed.spelling_eq_cons
  refine ⟨?_, alphanumeric, ?_⟩
  · have firstAlphanumeric := wellFormed.alphanumeric first (by simp [shape])
    simpa [spelled, shape] using (lowered first firstAlphanumeric).2 letter
  · have isAscii : ∀ char ∈ tag.name, char.toNat < 0x80 :=
      fun char member => toNat_lt_of_isAsciiAlphanumeric (alphanumeric char member)
    have noCapital : ∀ char ∈ tag.name, lowerAscii char = char :=
      fun _ member => lowerAscii_of_mem_lower member
    rw [lower_of_ascii isAscii, List.map_congr_left noCapital, List.map_id']

/-- The normal form of a well-formed tag is read back. -/
theorem Tag.WellFormed.printable_normalForm
    {tag : Tag}
    (wellFormed : tag.WellFormed)
    (marker : Option Text) :
    (tag.normalForm marker).Printable where
  name := wellFormed.isTagName
  attributes := by
    intro entry member
    unfold normalForm at member
    split at member
    · cases member
    · obtain ⟨source, _, isAccepted, rfl⟩ := exists_of_mem_keptAttributes member
      exact (isAttributeWord_of_allowed
        (mem_allowedAttributes_of_accepts isAccepted)).isPrintable source.2

theorem Tag.html_rebuild
    (marker : Option Text)
    (tag : Tag) :
    (tag.rebuild marker).html = (tag.normalForm marker).print.raw := by
  cases isClosing : tag.closing with
  | true =>
      simp [rebuild, normalForm, TagView.print, TagView.body, TagView.ending, raw, isClosing]
  | false =>
      cases closesItself : tag.selfClosing <;>
        simp [rebuild, normalForm, TagView.print, TagView.body, TagView.ending, raw, isClosing,
          closesItself, kept_filterAttributes]

/-- A sanitized segment is the clean segment, printed. -/
theorem Segment.html_sanitize
    (allowed : List Text)
    (marker : Option Text)
    (segment : Segment) :
    (segment.sanitize allowed marker).html = ((segment.clean allowed marker).map raw).getD [] := by
  cases segment with
  | text raw => rfl
  | tag element =>
      by_cases isDangerous : element.name ∈ dangerousTags
      · simp [sanitize, clean, Tag.survives, isDangerous]
      · by_cases isAllowed : element.name ∈ allowed
        · simp [sanitize, clean, Tag.survives, isDangerous, isAllowed, Tag.html_rebuild, raw]
        · simp [sanitize, clean, Tag.survives, isDangerous, isAllowed]

/-- The clean segments of a text. -/
def cleanSegments (html : Text) (allowedTags : List Text) (marker : Option Text) : List Segment :=
  (segments html).filterMap (Segment.clean (allowedTags.map lower) marker)

variable {html : Text} {allowedTags : List Text} {marker : Option Text}

/-- Sanitized markup is printed from clean segments. -/
theorem html_sanitizeDetailed :
    (sanitizeDetailed html allowedTags marker).html =
      (cleanSegments html allowedTags marker).flatMap Segment.raw := by
  rw [sanitizeDetailed, cleanSegments, List.flatMap_map, List.filterMap_eq_flatMap_toList,
    List.flatMap_assoc]
  refine List.flatMap_congr fun segment _ => ?_
  rw [Segment.html_sanitize]
  cases segment.clean (allowedTags.map lower) marker <;> simp

/-- A clean segment is an escaped text or a tag in normal form. -/
theorem of_mem_cleanSegments
    {segment : Segment}
    (member : segment ∈ cleanSegments html allowedTags marker) :
    (∃ raw, segment = .text (escape raw)) ∨
      ∃ element ∈ tags html,
        element.survives (allowedTags.map lower) = true ∧
          segment = .tag (element.normalForm marker).print := by
  obtain ⟨source, isSource, isClean⟩ := List.mem_filterMap.mp member
  cases source with
  | text raw => exact .inl ⟨raw, (Option.some.inj isClean).symm⟩
  | tag element =>
      rw [Segment.clean] at isClean
      split at isClean
      · rename_i survives
        exact .inr ⟨element, mem_tags.mpr isSource, survives, (Option.some.inj isClean).symm⟩
      · cases isClean

theorem readable_cleanSegments :
    ∀ segment ∈ cleanSegments html allowedTags marker, segment.Readable := by
  intro segment member
  rcases of_mem_cleanSegments member with ⟨raw, rfl⟩ | ⟨element, isTag, _, rfl⟩
  · exact fun member => mem_escape member (by simp)
  · exact TagView.wellFormed_print ((wellFormed_of_mem_tags isTag).printable_normalForm marker)

/-- The tags of sanitized markup are the surviving tags in normal form. -/
theorem tags_sanitizeDetailed :
    tags (sanitizeDetailed html allowedTags marker).html =
      ((tags html).filter (Tag.survives (allowedTags.map lower))).map fun element =>
        (element.normalForm marker).print := by
  rw [html_sanitizeDetailed, tags_flatMap_raw readable_cleanSegments, cleanSegments, tags]
  induction segments html with
  | nil => rfl
  | cons segment rest inductionHypothesis =>
      cases segment with
      | text raw =>
          simpa [List.filterMap_cons, Segment.clean, Segment.tag?] using inductionHypothesis
      | tag element =>
          by_cases survives : element.survives (allowedTags.map lower) = true
          · simpa [Segment.clean, Segment.tag?, survives] using inductionHypothesis
          · simpa [Segment.clean, Segment.tag?, survives] using inductionHypothesis

/-- The text between the tags of sanitized markup is the text before, escaped. -/
theorem contents_sanitizeDetailed :
    contents (sanitizeDetailed html allowedTags marker).html = escape (contents html) := by
  rw [html_sanitizeDetailed, contents_flatMap_raw readable_cleanSegments, cleanSegments, contents]
  induction segments html with
  | nil => rfl
  | cons segment rest inductionHypothesis =>
      cases segment with
      | text raw =>
          simpa [Segment.clean, Segment.content, escape_append] using inductionHypothesis
      | tag element =>
          by_cases survives : element.survives (allowedTags.map lower) = true
          · simpa [Segment.clean, Segment.content, survives] using inductionHypothesis
          · simpa [Segment.clean, Segment.content, survives] using inductionHypothesis

/-- Text without opening brackets is escaped as a whole. -/
theorem html_sanitizeDetailed_of_noBracket
    (noBracket : '<' ∉ html) :
    (sanitizeDetailed html allowedTags marker).html = escape html := by
  obtain ⟨noTags, allContent⟩ := tags_and_contents_of_noBracket noBracket
  have stillNoTags : tags (sanitizeDetailed html allowedTags marker).html = [] := by
    rw [tags_sanitizeDetailed, noTags]
    rfl
  rw [← contents_of_noTags stillNoTags, contents_sanitizeDetailed, allContent]

/--
Reading sanitized markup back gives the surviving tags, one for one and in order, each
in normal form, and between them the text of the markup, escaped.
-/
theorem sanitize_reads_back
    (html : Text)
    (allowedTags : List Text) :
    (tags (sanitize html allowedTags)).map Tag.view =
        ((tags html).filter (Tag.survives (allowedTags.map lower))).map (Tag.normalForm none) ∧
      contents (sanitize html allowedTags) = escape (contents html) := by
  refine ⟨?_, contents_sanitizeDetailed⟩
  rw [sanitize, tags_sanitizeDetailed, List.map_map]
  refine List.map_congr_left fun element member => ?_
  have wellFormed := wellFormed_of_mem_tags (List.mem_of_mem_filter member)
  exact TagView.view_print (wellFormed.printable_normalForm none)

end EmailComposer.Markup
