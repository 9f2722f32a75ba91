import EmailComposer.Proofs.Markup.Sanitize

namespace EmailComposer.Markup

/-!
# What is dropped without a record

Sanitizing records a tag or an attribute that it drops. Two things go without a record: what
a closing tag carries besides its name, and an attribute whose name has been kept before. So
a record without entries tells that the tags come through whole only for markup that has
neither.
-/

open EmailComposer.Text

namespace Tag

/-- The place of an attribute, as records name it. -/
def place (tag : Tag) (entry : Attribute) : Text :=
  tag.name ++ "." ++ lower entry.1

/-- What is recorded about an attribute behind others of some names: nothing if it is
accepted, or allowed and one of these names. -/
def refusal?
    (marker : Option Text)
    (tag : Tag)
    (keptNames : List Text)
    (entry : Attribute) : Option DroppedItem :=
  if entry.1 ∉ allowedAttributes tag.name then
    some ⟨.disallowedAttribute, tag.place entry⟩
  else if entry.1 ∈ keptNames then
    none
  else if marker.any fun text => !text.isEmpty && includes text entry.2 then
    some ⟨.token, tag.place entry⟩
  else if entry.1 ∈ urlAttributes && !Url.hasAllowedProtocol entry.2 then
    some ⟨.unsafeUrl, tag.place entry ++ "=" ++ entry.2⟩
  else
    none

/-- The names of the accepted attributes among some. -/
def acceptedNames (marker : Option Text) (tag : Tag) (entries : List Attribute) : List Text :=
  (entries.filter (tag.accepts marker)).map Prod.fst

@[simp]
theorem acceptedNames_nil
    {marker : Option Text}
    {tag : Tag} :
    tag.acceptedNames marker [] = [] :=
  rfl

theorem mem_acceptedNames
    {marker : Option Text}
    {tag : Tag}
    {entries : List Attribute}
    {name : Text} :
    name ∈ tag.acceptedNames marker entries ↔
      ∃ entry ∈ entries, tag.accepts marker entry = true ∧ entry.1 = name := by
  simp only [acceptedNames, List.mem_map, List.mem_filter, and_assoc]

theorem mem_acceptedNames_cons
    {marker : Option Text}
    {tag : Tag}
    {first : Attribute}
    {rest : List Attribute}
    {name : Text} :
    name ∈ tag.acceptedNames marker (first :: rest) ↔
      (tag.accepts marker first = true ∧ name = first.1) ∨
        name ∈ tag.acceptedNames marker rest := by
  rw [mem_acceptedNames, mem_acceptedNames, List.exists_mem_cons_iff, eq_comm (a := name)]

/-- The items that are recorded about a tag: the tag itself if it does not survive, and else
the attributes of an opening tag that are refused. -/
inductive Records
    (allowed : List Text)
    (marker : Option Text)
    (tag : Tag) : DroppedItem → Prop where
  | removed
      (goes : tag.survives allowed = false) :
      Records allowed marker tag ⟨tag.dropKind, tag.raw⟩
  | refused
      (survives : tag.survives allowed = true)
      (isOpening : tag.closing = false)
      {before after : List Attribute}
      {entry : Attribute}
      (shape : tag.attributes = before ++ entry :: after)
      {item : DroppedItem}
      (isRefused : tag.refusal? marker (tag.acceptedNames marker before) entry = some item) :
      Records allowed marker tag item

/-- Nothing of a tag is recorded as dropped: it survives, and if it is an opening tag each of
its attributes is accepted or repeats the name of an accepted one before it. -/
structure DropsNothing (allowed : List Text) (marker : Option Text) (tag : Tag) : Prop where
  survives : tag.survives allowed = true
  accounted :
    tag.closing = false →
      ∀ before entry after,
        tag.attributes = before ++ entry :: after →
        tag.accepts marker entry = true ∨
          ∃ earlier ∈ before, tag.accepts marker earlier = true ∧ earlier.1 = entry.1

/-- The tag says nothing that goes without a record: a closing tag has only its name, an
opening tag names no attribute twice. -/
structure SaysAllOnce (tag : Tag) : Prop where
  closing : tag.closing = true → tag.selfClosing = false ∧ tag.attributes = []
  opening : tag.closing = false → (tag.attributes.map Prod.fst).Nodup

/-- What a tag says, with its values escaped. -/
def escapedView (tag : Tag) : TagView where
  closing := tag.closing
  name := tag.name
  selfClosing := tag.selfClosing
  attributes := tag.attributes.map fun entry => (entry.1, escape entry.2)

end Tag

/-- Splits of a longer list at one of its elements. -/
theorem exists_split_cons
    {Item : Type}
    {property : List Item → Item → Prop}
    {first : Item}
    {rest : List Item} :
    (∃ before item after, first :: rest = before ++ item :: after ∧ property before item) ↔
      property [] first ∨
        ∃ before item after, rest = before ++ item :: after ∧ property (first :: before) item := by
  constructor
  · rintro ⟨before, item, after, same, holds⟩
    cases before with
    | nil =>
        obtain ⟨rfl, rfl⟩ := List.cons.inj same
        exact .inl holds
    | cons head others =>
        obtain ⟨rfl, rfl⟩ := List.cons.inj same
        exact .inr ⟨others, item, after, rfl, holds⟩
  · rintro (atFirst | ⟨before, item, after, rfl, holds⟩)
    · exact ⟨[], first, rest, rfl, atFirst⟩
    · exact ⟨first :: before, item, after, rfl, holds⟩

section Filter

variable {marker : Option Text} {tag : Tag}

/-- Of the kept names only it counts whether that of the attribute is among them. -/
theorem Tag.refusal?_congr
    {names otherNames : List Text}
    {entry : Attribute}
    (same : entry.1 ∈ names ↔ entry.1 ∈ otherNames) :
    tag.refusal? marker names entry = tag.refusal? marker otherNames entry := by
  simp only [refusal?, same]

/-- Nothing is recorded about an attribute exactly if it is accepted, or allowed and kept
before. -/
theorem Tag.refusal?_eq_none_iff
    {names : List Text}
    {entry : Attribute} :
    tag.refusal? marker names entry = none ↔
      tag.accepts marker entry = true ∨
        entry.1 ∈ allowedAttributes tag.name ∧ entry.1 ∈ names := by
  simp only [refusal?, accepts]
  generalize (marker.any fun text => !text.isEmpty && includes text entry.2) = holdsMarker
  generalize (decide (entry.1 ∈ urlAttributes) && !Url.hasAllowedProtocol entry.2) = isUnsafe
  by_cases isAllowed : entry.1 ∈ allowedAttributes tag.name
  · by_cases isKept : entry.1 ∈ names <;> cases holdsMarker <;> cases isUnsafe <;>
      simp [isAllowed, isKept]
  · simp [isAllowed]

/-- The filter adds to its record what there is to record about an attribute. -/
theorem FilteredAttributes.dropped_add
    {entry : Attribute}
    (member : entry ∈ tag.attributes)
    (filtered : FilteredAttributes) :
    (filtered.add tag.name (allowedAttributes tag.name) marker entry).dropped =
      filtered.dropped ++ (tag.refusal? marker (filtered.kept.map Prod.fst) entry).toList := by
  by_cases isAllowed : entry.1 ∈ allowedAttributes tag.name
  · have isWord := isAttributeWord_of_allowed isAllowed
    have keptBefore : (filtered.kept.any fun earlier => decide (earlier.1 = entry.1)) =
        decide (entry.1 ∈ filtered.kept.map Prod.fst) := by
      rw [Bool.eq_iff_iff]
      simp only [List.any_eq_true, decide_eq_true_eq, List.mem_map]
    simp only [add, isWord.isLower, isWord.notDangerous, isAllowed, Tag.refusal?, Tag.place,
      keptBefore]
    generalize (marker.any fun text => !text.isEmpty && includes text entry.2) = holdsMarker
    generalize (decide (entry.1 ∈ urlAttributes) && !Url.hasAllowedProtocol entry.2) = isUnsafe
    by_cases isKept : entry.1 ∈ filtered.kept.map Prod.fst <;> cases holdsMarker <;>
      cases isUnsafe <;> simp [isKept, drop]
  · have notAllowed := mt (Tag.lower_mem_allowedAttributes member).mp isAllowed
    simp [add, notAllowed, Tag.refusal?, Tag.place, isAllowed, drop]

/-- The names that have been kept are those kept before and that of an accepted attribute. -/
theorem FilteredAttributes.mem_kept_add_iff
    {entry : Attribute}
    (member : entry ∈ tag.attributes)
    (filtered : FilteredAttributes)
    (name : Text) :
    name ∈ (filtered.add tag.name (allowedAttributes tag.name) marker entry).kept.map Prod.fst ↔
      name ∈ filtered.kept.map Prod.fst ∨
        tag.accepts marker entry = true ∧ name = entry.1 := by
  rw [kept_add_of_mem member]
  by_cases isKept : entry.1 ∈ filtered.kept.map Prod.fst
  · rw [if_neg (fun both => both.2 isKept)]
    constructor
    · exact .inl
    · rintro (before | ⟨_, rfl⟩)
      · exact before
      · exact isKept
  · by_cases isAccepted : tag.accepts marker entry = true
    · simp [isAccepted, isKept]
    · simp [isAccepted]

/-- The record on some attributes, each with the names of those kept before it. -/
theorem FilteredAttributes.mem_dropped_foldl_add_iff
    {entries : List Attribute}
    (members : ∀ entry ∈ entries, entry ∈ tag.attributes)
    (filtered : FilteredAttributes)
    {item : DroppedItem} :
    item ∈ (entries.foldl (add tag.name (allowedAttributes tag.name) marker) filtered).dropped ↔
      item ∈ filtered.dropped ∨
        ∃ before entry after,
          entries = before ++ entry :: after ∧
            tag.refusal? marker (filtered.kept.map Prod.fst ++ tag.acceptedNames marker before)
              entry = some item := by
  induction entries generalizing filtered with
  | nil => simp
  | cons first rest inductionHypothesis =>
      have firstMember := members first (by simp)
      have onward := inductionHypothesis (fun entry member => members entry (by simp [member]))
        (filtered.add tag.name (allowedAttributes tag.name) marker first)
      -- The name that the first attribute adds to the kept ones is then among those before.
      have sameRefusal : ∀ before (entry : Attribute),
          tag.refusal? marker
              ((filtered.add tag.name (allowedAttributes tag.name) marker first).kept.map
                Prod.fst ++ tag.acceptedNames marker before) entry =
            tag.refusal? marker
              (filtered.kept.map Prod.fst ++ tag.acceptedNames marker (first :: before))
              entry := by
        intro before entry
        apply Tag.refusal?_congr
        rw [List.mem_append, List.mem_append, mem_kept_add_iff firstMember,
          Tag.mem_acceptedNames_cons]
        tauto
      rw [List.foldl_cons, onward, dropped_add firstMember, List.mem_append,
        Option.mem_toList, or_assoc]
      simp only [sameRefusal, exists_split_cons, Tag.acceptedNames_nil, List.append_nil]

/-- The record of the filter of a tag. -/
theorem mem_dropped_filterAttributes_iff
    {item : DroppedItem} :
    item ∈ (filterAttributes tag.name tag.attributes (allowedAttributes tag.name)
        marker).dropped ↔
      ∃ before entry after,
        tag.attributes = before ++ entry :: after ∧
          tag.refusal? marker (tag.acceptedNames marker before) entry = some item := by
  rw [filterAttributes, map_lower_allowedAttributes,
    FilteredAttributes.mem_dropped_foldl_add_iff fun _ member => member]
  simp [FilteredAttributes.empty]

end Filter

variable {html : Text} {allowedTags : List Text} {marker : Option Text}

/-- The record on a segment is that on its tag, if it is one. -/
theorem Segment.mem_dropped_sanitize_iff
    {allowed : List Text}
    {segment : Segment}
    {item : DroppedItem} :
    item ∈ (segment.sanitize allowed marker).dropped ↔
      ∃ element ∈ segment.tag?, element.Records allowed marker item := by
  cases segment with
  | text raw => simp [sanitize, tag?]
  | tag element =>
      have fails : (decide (element.name ∈ dangerousTags) || decide (element.name ∉ allowed)) =
          !element.survives allowed := by
        simp [Tag.survives, Bool.or_comm]
      have onlyTag : (∃ other ∈ (Segment.tag element).tag?, other.Records allowed marker item) ↔
          element.Records allowed marker item := by
        simp [tag?]
      rw [onlyTag, sanitize, fails]
      cases survives : element.survives allowed with
      | false =>
          rw [Bool.not_false, if_pos rfl, List.mem_singleton]
          constructor
          · rintro rfl
            exact .removed survives
          · intro records
            cases records with
            | removed => rfl
            | refused stays => simp [survives] at stays
      | true =>
          rw [Bool.not_true, if_neg Bool.false_ne_true]
          cases isClosing : element.closing with
          | true =>
              constructor
              · intro member
                simp [Tag.rebuild, isClosing] at member
              · intro records
                cases records with
                | removed goes => simp [survives] at goes
                | refused _ isOpening => simp [isClosing] at isOpening
          | false =>
              have record : (element.rebuild marker).dropped =
                  (filterAttributes element.name element.attributes
                    (allowedAttributes element.name) marker).dropped := by
                simp [Tag.rebuild, isClosing]
              rw [record, mem_dropped_filterAttributes_iff]
              constructor
              · rintro ⟨before, entry, after, shape, isRefused⟩
                exact .refused survives isClosing shape isRefused
              · intro records
                cases records with
                | removed goes => simp [survives] at goes
                | refused _ _ shape isRefused => exact ⟨_, _, _, shape, isRefused⟩

/-- The record on markup is that on its tags. -/
theorem mem_dropped_sanitizeDetailed_iff
    {item : DroppedItem} :
    item ∈ (sanitizeDetailed html allowedTags marker).dropped ↔
      ∃ element ∈ tags html, element.Records (allowedTags.map lower) marker item := by
  simp only [sanitizeDetailed, List.flatMap_map, List.mem_flatMap,
    Segment.mem_dropped_sanitize_iff, tags, List.mem_filterMap]
  constructor
  · rintro ⟨segment, isSegment, element, isTag, records⟩
    exact ⟨element, ⟨segment, isSegment, isTag⟩, records⟩
  · rintro ⟨element, ⟨segment, isSegment, isTag⟩, records⟩
    exact ⟨segment, isSegment, element, isTag, records⟩

/-- Nothing of a tag is dropped exactly if nothing is recorded about it. -/
theorem Tag.dropsNothing_iff
    {allowed : List Text}
    {element : Tag} :
    element.DropsNothing allowed marker ↔ ∀ item, ¬ element.Records allowed marker item := by
  constructor
  · intro drops item records
    cases records with
    | removed goes => simp [drops.survives] at goes
    | @refused _ isOpening before after entry shape _ isRefused =>
        have notRefused : element.refusal? marker (element.acceptedNames marker before) entry =
            none := by
          apply refusal?_eq_none_iff.mpr
          rcases drops.accounted isOpening before entry after shape with
              isAccepted | ⟨earlier, isEarlier, isAccepted, sameName⟩
          · exact .inl isAccepted
          · refine .inr ⟨sameName ▸ mem_allowedAttributes_of_accepts isAccepted, ?_⟩
            exact mem_acceptedNames.mpr ⟨earlier, isEarlier, isAccepted, sameName⟩
        rw [notRefused] at isRefused
        cases isRefused
  · intro noRecord
    have survives : element.survives allowed = true := by
      by_contra goes
      exact noRecord _ (.removed (Bool.of_not_eq_true goes))
    refine ⟨survives, fun isOpening before entry after shape => ?_⟩
    have notRefused : element.refusal? marker (element.acceptedNames marker before) entry =
        none := by
      rw [Option.eq_none_iff_forall_ne_some]
      exact fun item isRefused => noRecord item (.refused survives isOpening shape isRefused)
    rcases refusal?_eq_none_iff.mp notRefused with isAccepted | ⟨_, isKept⟩
    · exact .inl isAccepted
    · exact .inr (mem_acceptedNames.mp isKept)

/-- Nothing is recorded as dropped exactly if nothing of any tag is. -/
theorem dropped_sanitizeDetailed_eq_nil_iff :
    (sanitizeDetailed html allowedTags marker).dropped = [] ↔
      ∀ element ∈ tags html, element.DropsNothing (allowedTags.map lower) marker := by
  simp only [List.eq_nil_iff_forall_not_mem, mem_dropped_sanitizeDetailed_iff,
    Tag.dropsNothing_iff, not_exists, not_and]
  exact ⟨fun none element isTag item => none item element isTag,
    fun none item element isTag => none element isTag item⟩

section View

variable {allowed : List Text} {element : Tag}

/-- If nothing is recorded, attributes of different names are all accepted. -/
theorem Tag.DropsNothing.accepts
    (drops : element.DropsNothing allowed marker)
    (isOpening : element.closing = false)
    (noDuplicates : (element.attributes.map Prod.fst).Nodup) :
    ∀ entry ∈ element.attributes, element.accepts marker entry = true := by
  intro entry member
  obtain ⟨before, after, shape⟩ := List.append_of_mem member
  rcases drops.accounted isOpening before entry after shape with
      isAccepted | ⟨earlier, isEarlier, _, sameName⟩
  · exact isAccepted
  · rw [shape, List.map_append, List.nodup_append] at noDuplicates
    have differ := noDuplicates.2.2 earlier.1 (List.mem_map_of_mem isEarlier) entry.1 (by simp)
    exact absurd sameName differ

/-- A tag of which nothing is recorded comes through whole exactly if it says nothing that
goes without a record. -/
theorem Tag.DropsNothing.normalForm_eq_iff
    (drops : element.DropsNothing allowed marker) :
    element.normalForm marker = element.escapedView ↔ element.SaysAllOnce := by
  cases isClosing : element.closing with
  | true =>
      have comparison : element.normalForm marker = element.escapedView ↔
          element.selfClosing = false ∧ element.attributes = [] := by
        simp only [normalForm, escapedView, isClosing, if_true, TagView.mk.injEq, true_and]
        exact and_congr eq_comm (eq_comm.trans List.map_eq_nil_iff)
      rw [comparison]
      exact ⟨fun bare => ⟨fun _ => bare, fun isOpening => by simp [isClosing] at isOpening⟩,
        fun once => once.closing isClosing⟩
  | false =>
      have comparison : element.normalForm marker = element.escapedView ↔
          element.keptAttributes marker =
            element.attributes.map fun entry => (entry.1, escape entry.2) := by
        simp [normalForm, escapedView, isClosing]
      have sameNames : ∀ entries : List Attribute,
          (entries.map fun entry => (entry.1, escape entry.2)).map Prod.fst =
            entries.map Prod.fst := by
        intro entries
        rw [List.map_map]
        rfl
      rw [comparison]
      constructor
      · intro same
        have noDuplicates := nodup_firstOfEach (element.attributes.filter (element.accepts marker))
        rw [← sameNames, ← Tag.keptAttributes, same, sameNames] at noDuplicates
        exact ⟨fun closes => by simp [isClosing] at closes, fun _ => noDuplicates⟩
      · intro once
        have noDuplicates := once.opening isClosing
        have allAccepted := List.filter_eq_self.mpr (drops.accepts isClosing noDuplicates)
        rw [keptAttributes, allAccepted, firstOfEach_of_nodup noDuplicates]

end View

/--
The record of what is dropped has no entry exactly if every tag survives and every attribute
of an opening tag is accepted or repeats the name of an accepted one. The tags then come
through one for one, with all their attributes in order and the values escaped, exactly if no
closing tag carries anything and no opening tag names an attribute twice.
-/
theorem nothing_dropped_iff
    (html : Text)
    (allowedTags : List Text)
    (marker : Option Text) :
    ((sanitizeDetailed html allowedTags marker).dropped = [] ↔
        ∀ element ∈ tags html, element.DropsNothing (allowedTags.map lower) marker) ∧
      ((sanitizeDetailed html allowedTags marker).dropped = [] →
        ((tags (sanitizeDetailed html allowedTags marker).html).map Tag.view =
            (tags html).map Tag.escapedView ↔
          ∀ element ∈ tags html, element.SaysAllOnce)) := by
  refine ⟨dropped_sanitizeDetailed_eq_nil_iff, fun nothing => ?_⟩
  have drops := dropped_sanitizeDetailed_eq_nil_iff.mp nothing
  have readBack : (tags (sanitizeDetailed html allowedTags marker).html).map Tag.view =
      (tags html).map (Tag.normalForm marker) := by
    have allSurvive : (tags html).filter (Tag.survives (allowedTags.map lower)) = tags html :=
      List.filter_eq_self.mpr fun element isTag => (drops element isTag).survives
    rw [tags_sanitizeDetailed, allSurvive, List.map_map]
    exact List.map_congr_left fun element isTag =>
      TagView.view_print ((wellFormed_of_mem_tags isTag).printable_normalForm marker)
  rw [readBack, List.map_inj_left]
  exact forall₂_congr fun element isTag => (drops element isTag).normalForm_eq_iff

/-- Nothing is recorded about the second address of this link, which is gone. -/
theorem repeatedAddress_dropped_silently :
    ¬ ∀ html allowedTags,
      (sanitizeDetailed html allowedTags none).dropped = [] →
      (tags (sanitizeDetailed html allowedTags none).html).map Tag.view =
        (tags html).map Tag.escapedView := by
  intro comesThrough
  have same := comesThrough "<a href=\"https://x\" href=\"https://y\">t</a>" ["a"]
    (by decide +kernel)
  revert same
  decide +kernel

end EmailComposer.Markup
