import EmailComposer.Proofs.Content.Policy
import EmailComposer.Proofs.Markup.Address
import EmailComposer.Proofs.Token.Weave

namespace EmailComposer

/-!
# Sanitizing cuts and weaves

Sanitizing a masked text drops strands of it and weaves tags, entities and line breaks of
its own in. Tags and addresses are taken out between words, so no placeholder is torn.
-/

open EmailComposer.Text
open EmailComposer.Markup
open EmailComposer.Token
open EmailComposer.Token.Weave

section Escape

theorem isMade_of_contentTable
    {char : Char}
    {entity : Text}
    (isEntity : contentTable char = some entity) :
    IsMade entity := by
  have isUnsafe : char ∈ unsafeChars := by
    by_contra isSafe
    rw [contentTable_eq_none_iff.mpr isSafe] at isEntity
    cases isEntity
  have sound : ∀ char ∈ unsafeChars, ∀ entity ∈ contentTable char,
      entity.head? = some '&' ∧ entity.getLast? = some ';' ∧ 'k' ∉ entity ∧ '{' ∉ entity := by
    decide
  obtain ⟨starts, ends, stemless, braceless⟩ := sound char isUnsafe entity isEntity
  exact ⟨⟨'&', starts, by decide⟩, ⟨';', ends, by decide⟩, stemless, braceless⟩

theorem escapeChar_of_isAsciiAlphanumeric
    {char : Char}
    (isWord : isAsciiAlphanumeric char = true) :
    escapeChar contentTable char = [char] := by
  have isSafe := not_mem_unsafeChars_of_isAsciiAlphanumeric isWord
  simp [escapeChar, contentTable_eq_none_iff.mpr isSafe]

theorem escapeChar_eq_or_isMade
    (char : Char) :
    escapeChar contentTable char = [char] ∨ IsMade (escapeChar contentTable char) := by
  cases isEntity : contentTable char with
  | none => exact .inl (by simp [escapeChar, isEntity])
  | some entity =>
      refine .inr ?_
      simpa [escapeChar, isEntity] using isMade_of_contentTable isEntity

/-- Escaping writes entities in the place of single characters. -/
theorem yields_escape
    {source : Weave}
    (isFine : source.IsFine) :
    source.Yields IsMade (escape source.spelling) :=
  yields_flatMap (fun _ => IsSign.isMade) (fun _ => escapeChar_of_isAsciiAlphanumeric)
    escapeChar_eq_or_isMade isFine

/-- A scan that escapes what stands between the values it finds. -/
theorem yields_scan_escape
    {Value : Type}
    {pattern : Pattern Value}
    {onFound : Value → Text}
    (weavesFound : WeavesFound pattern onFound IsMade)
    {source : Weave}
    (isFine : source.IsFine) :
    source.Yields IsMade
      ((pattern.scan source.spelling).flatMap (printPiece (escapeChar contentTable) onFound)) :=
  yields_scan (fun _ => IsSign.isMade) (fun _ => escapeChar_of_isAsciiAlphanumeric)
    escapeChar_eq_or_isMade weavesFound isFine

end Escape

section Tags

/-- A printed tag, from its first bracket to its last. -/
theorem raw_print_eq
    (view : TagView) :
    view.print.raw =
      '<' :: ((if view.closing then ['/'] else []) ++
        (view.name ++ (view.attributes.flatMap printAttribute ++ (view.ending ++ ['>'])))) := by
  cases isClosing : view.closing <;>
    simp [Tag.raw, TagView.print, TagView.body, isClosing]

theorem not_mem_ending
    {char : Char}
    (isLetter : char = 'k' ∨ char = '{')
    (view : TagView) :
    char ∉ view.ending := by
  unfold TagView.ending
  rcases isLetter with rfl | rfl <;> split <;> decide

/-- Inline tags without attributes are made. -/
theorem isMade_raw_print
    {view : TagView}
    (isInline : view.name ∈ ContentPolicy.inlineTags)
    (noAttributes : view.attributes = []) :
    IsMade view.print.raw := by
  have plainNames : ∀ name ∈ ContentPolicy.inlineTags, 'k' ∉ name ∧ '{' ∉ name := by
    decide
  have isPlain := plainNames view.name isInline
  have noStem := not_mem_ending (.inl rfl) view
  have noBrace := not_mem_ending (.inr rfl) view
  have shape : view.print.raw =
      '<' :: (((if view.closing then ['/'] else []) ++ (view.name ++ view.ending)) ++ ['>']) := by
    rw [raw_print_eq, noAttributes]
    simp
  rw [shape]
  refine IsMade.of_ends ⟨_, rfl, by decide, by decide⟩ ⟨_, rfl, by decide, by decide⟩ ?_ ?_
  · cases view.closing <;> simp [isPlain, noStem]
  · cases view.closing <;> simp [isPlain, noBrace]

/-- A link is woven from its tag: markup is made around the address, and the address is
taken out of the tag and escaped. -/
theorem yields_link
    {source : Weave}
    (isFine : source.IsFine)
    {element : Tag}
    (spelled : source.spelling = element.raw)
    {value : Text}
    (standsApart : StandsApart value element.body)
    {view : TagView}
    (isLink : view.closing = false ∧ view.name = "a")
    (one : view.attributes = [(("href" : Text), escape value)]) :
    source.Yields IsMade view.print.raw := by
  have opened : IsMade ('<' :: ("a href=" ++ ['"'])) :=
    IsMade.of_ends ⟨_, rfl, by decide, by decide⟩ ⟨_, rfl, by decide, by decide⟩
      (by decide) (by decide)
  have closed : IsMade ('"' :: (view.ending ++ ['>'])) :=
    IsMade.of_ends ⟨_, rfl, by decide, by decide⟩ ⟨_, rfl, by decide, by decide⟩
      (not_mem_ending (.inl rfl) view) (not_mem_ending (.inr rfl) view)
  have shape : view.print.raw =
      ('<' :: ("a href=" ++ ['"'])) ++ (escape value ++ '"' :: (view.ending ++ ['>'])) := by
    rw [raw_print_eq, one, isLink.1, isLink.2]
    simp [printAttribute]
  rw [shape]
  rcases standsApart with rfl | ⟨before, after, bodyShape, ⟨last, isLast, noWord⟩, stops⟩
  · exact (yields_made opened : Yields [] IsMade _).append
      ((yields_nil : Yields [] IsMade _).append (yields_made closed))
  · have wholeShape : source.spelling =
        ((if element.closing then "</" else "<") ++ element.spelling ++ before) ++
          (value ++ (after ++ ['>'])) := by
      rw [spelled, Tag.raw, bodyShape]
      simp
    have firstGap : IsGap ((if element.closing then "</" else "<") ++ element.spelling ++ before)
        (value ++ (after ++ ['>'])) := by
      refine .inl fun char isChar => ?_
      rw [List.getLast?_append, isLast] at isChar
      cases isChar
      exact noWord
    obtain ⟨first, others, rfl, _, othersShape⟩ := isFine.exists_split wholeShape firstGap
    obtain ⟨_, othersFine⟩ := IsFine.of_append isFine
    have secondGap : IsGap value (after ++ ['>']) := by
      refine .inr fun char isChar => ?_
      cases after with
      | nil =>
          cases isChar
          decide
      | cons head tail => exact stops char isChar
    obtain ⟨middle, behind, rfl, middleShape, _⟩ := othersFine.exists_split othersShape secondGap
    have escaped := yields_escape (IsFine.of_append othersFine).1
    rw [middleShape] at escaped
    exact (yields_made opened).append (escaped.append (yields_made closed))

variable {policy : ContentPolicy} (isInline : policy.IsInline)

/-- What is left of a tag: nothing, or its normal form. -/
def cleanTag (policy : ContentPolicy) (marker : Option Text) (element : Tag) : Text :=
  if element.survives policy.allowedTags then
    (element.normalForm marker).print.raw
  else
    []

include isInline

/-- What is left of a tag is woven from it. -/
theorem weavesFound_tags
    (marker : Option Text) :
    WeavesFound Tag.pattern (cleanTag policy marker) IsMade := by
  intro text element rest found
  refine ⟨element.raw, (Tag.read?_eq_some found).2, ?_, stopsAtEnd_concat _ (by decide), ?_⟩
  · unfold Tag.raw
    split <;> exact stops_cons.mpr (by decide)
  · intro source isFine spelled
    unfold cleanTag
    split
    · rename_i survives
      have isInlineTag := (ContentPolicy.mem_allowedTags_of_survives isInline survives).2
      rcases ContentPolicy.attributes_normalForm isInline survives marker with
          none | ⟨⟨isOpening, isLink⟩, address, inTag, _, _, one⟩
      · exact yields_made (isMade_raw_print isInlineTag none)
      · exact yields_link isFine spelled (standsApart_of_mem_attributes inTag)
          ⟨isOpening, isLink⟩ one
    · exact yields_nil

omit isInline in
/-- Markup is sanitized along the scan for its tags. -/
theorem html_sanitizeDetailed_eq_flatMap
    (html : Text)
    (allowedTags : List Text)
    (marker : Option Text) :
    (sanitizeDetailed html allowedTags marker).html =
      (Tag.pattern.scan html).flatMap (printPiece (escapeChar contentTable) fun element =>
        ((Segment.tag element).sanitize (allowedTags.map lower) marker).html) := by
  rw [sanitizeDetailed, segments]
  dsimp only
  rw [List.flatMap_map]
  induction Tag.pattern.scan html with
  | nil => rfl
  | cons piece rest inductionHypothesis =>
      cases piece with
      | found element =>
          rw [Segment.ofPieces, List.flatMap_cons, inductionHypothesis]
          rfl
      | plain char =>
          rcases Segment.ofPieces_plain char rest with ⟨raw, others, shape, joined⟩ | ⟨_, joined⟩
          · rw [shape] at inductionHypothesis
            rw [joined, List.flatMap_cons, List.flatMap_cons, ← inductionHypothesis]
            simp [Segment.sanitize, escape_cons, printPiece]
          · rw [joined, List.flatMap_cons, List.flatMap_cons, inductionHypothesis]
            simp [Segment.sanitize, escape, escapeWith, printPiece]

/-- Sanitized markup is woven from the text it was made of. -/
theorem yields_sanitizeDetailed
    (marker : Option Text)
    {source : Weave}
    (isFine : source.IsFine) :
    source.Yields IsMade
      (sanitizeDetailed source.spelling policy.allowedTags marker).html := by
  have sameTags : (fun element : Tag =>
      ((Segment.tag element).sanitize (policy.allowedTags.map lower) marker).html) =
        cleanTag policy marker := by
    funext element
    rw [Segment.html_sanitize, ContentPolicy.map_lower_allowedTags isInline, Segment.clean]
    unfold cleanTag
    split <;> rfl
  rw [html_sanitizeDetailed_eq_flatMap, sameTags]
  exact yields_scan_escape (weavesFound_tags isInline marker) isFine

end Tags

end EmailComposer
