import Mathlib.Data.List.TakeWhile
import EmailComposer.Markup.Segment
import EmailComposer.Proofs.Text.Case
import EmailComposer.Proofs.Text.Run
import EmailComposer.Proofs.Text.Scan

namespace EmailComposer.Markup

/-!
# Reading segments back

Splitting undoes printing. A list of segments is read back exactly if its texts hold
no opening bracket, its tags are written the way tags are read, and no two texts
stand side by side; where texts do, they are joined and nothing else changes.
-/

open EmailComposer.Text

namespace Tag

/-- The parts of a tag are what a reader of tags takes for them. -/
structure WellFormed (tag : Tag) : Prop where
  startsWithLetter : (tag.spelling.head?.map isAsciiLetter).getD false = true
  alphanumeric : ∀ char ∈ tag.spelling, isAsciiAlphanumeric char = true
  endsWord : Stops isWord tag.body
  noBracket : ∀ char ∈ tag.body, isNoBracket char = true

/-- The body of a tag and its closing bracket do not continue its name. -/
theorem WellFormed.stops_word
    {tag : Tag}
    (wellFormed : tag.WellFormed)
    (rest : Text) :
    Stops isWord (tag.body ++ '>' :: rest) := by
  cases shape : tag.body with
  | nil => exact stops_cons.mpr (by decide)
  | cons first others => exact stops_cons.mpr (stops_cons.mp (shape ▸ wellFormed.endsWord))

theorem readNamed?_of_wellFormed
    {tag : Tag}
    (wellFormed : tag.WellFormed)
    (rest : Text) :
    readNamed? tag.closing (tag.spelling ++ (tag.body ++ '>' :: rest)) = some (tag, rest) := by
  have wordStops := wellFormed.stops_word rest
  have nameStops : Stops isAsciiAlphanumeric (tag.body ++ '>' :: rest) :=
    wordStops.of_imp fun _ => isWord_of_isAsciiAlphanumeric
  have bodyStops : Stops isNoBracket ('>' :: rest) := stops_cons.mpr (by decide)
  unfold readNamed?
  simp only [takeWhile_run_append wellFormed.alphanumeric nameStops,
    dropWhile_run_append wellFormed.alphanumeric nameStops,
    takeWhile_run_append wellFormed.noBracket bodyStops,
    dropWhile_run_append wellFormed.noBracket bodyStops,
    wellFormed.startsWithLetter, stops_iff.mp wordStops, Bool.not_false, Bool.and_self,
    ↓reduceIte]

theorem WellFormed.spelling_eq_cons
    {tag : Tag}
    (wellFormed : tag.WellFormed) :
    ∃ first others, tag.spelling = first :: others ∧ isAsciiLetter first = true := by
  have letter := wellFormed.startsWithLetter
  cases shape : tag.spelling with
  | nil => simp [shape] at letter
  | cons first others => exact ⟨first, others, rfl, by simpa [shape] using letter⟩

theorem read?_raw
    {tag : Tag}
    (wellFormed : tag.WellFormed)
    (rest : Text) :
    read? (tag.raw ++ rest) = some (tag, rest) := by
  have named := readNamed?_of_wellFormed wellFormed rest
  cases isClosing : tag.closing with
  | true =>
      simpa [raw, isClosing, read?] using named
  | false =>
      obtain ⟨first, others, nameShape, letter⟩ := wellFormed.spelling_eq_cons
      have notSlash : first ≠ '/' := by
        rintro rfl
        exact absurd letter (by decide)
      rw [isClosing, nameShape] at named
      simpa [raw, isClosing, nameShape, read?, notSlash] using named

/-- What is read behind the opening bracket is a well-formed tag, and nothing is lost. -/
theorem readNamed?_eq_some
    {closing : Bool}
    {text rest : Text}
    {tag : Tag}
    (found : readNamed? closing text = some (tag, rest)) :
    tag.WellFormed ∧ tag.closing = closing ∧
      text = tag.spelling ++ (tag.body ++ '>' :: rest) := by
  unfold readNamed? at found
  dsimp only at found
  split at found
  · rename_i named
    rw [Bool.and_eq_true, Bool.not_eq_true', ← stops_iff] at named
    split at found
    · rename_i remaining isRest
      obtain ⟨rfl, rfl⟩ := Prod.mk.inj (Option.some.inj found)
      have shape : text.dropWhile isAsciiAlphanumeric =
          (text.dropWhile isAsciiAlphanumeric).takeWhile isNoBracket ++ '>' :: remaining := by
        rw [← isRest, List.takeWhile_append_dropWhile]
      refine ⟨⟨named.1, fun _ => List.mem_takeWhile_imp, ?_, fun _ => List.mem_takeWhile_imp⟩,
        rfl, ?_⟩
      · intro char member
        apply named.2 char
        rw [shape]
        exact List.mem_head?_append_of_mem_head? member
      · rw [← shape, List.takeWhile_append_dropWhile]
    · cases found
  · cases found

/-- What is read as a tag is well formed, and nothing is lost. -/
theorem read?_eq_some
    {text rest : Text}
    {tag : Tag}
    (found : read? text = some (tag, rest)) :
    tag.WellFormed ∧ text = tag.raw ++ rest := by
  unfold read? at found
  split at found
  · obtain ⟨wellFormed, isClosing, rfl⟩ := readNamed?_eq_some found
    exact ⟨wellFormed, by simp [raw, isClosing]⟩
  · obtain ⟨wellFormed, isOpening, rfl⟩ := readNamed?_eq_some found
    exact ⟨wellFormed, by simp [raw, isOpening]⟩
  · cases found

/-- Nothing but an opening bracket starts a tag. -/
theorem read?_of_ne
    {first : Char}
    (notBracket : first ≠ '<')
    (rest : Text) :
    read? (first :: rest) = none := by
  unfold read?
  split
  · rename_i shape
    exact absurd (List.cons.inj shape).1 notBracket
  · rename_i shape
    exact absurd (List.cons.inj shape).1 notBracket
  · rfl

end Tag

namespace Segment

/-- The steps of a scan that a segment stands for. -/
def pieces : Segment → List (Piece Tag)
  | .text raw => raw.map .plain
  | .tag element => [.found element]

/-- The text of a segment that is no tag. -/
def content : Segment → Text
  | .text raw => raw
  | .tag _ => []

/-- A segment that is read back: a text without opening brackets, or a well-formed
tag. -/
def Readable : Segment → Prop
  | .text raw => '<' ∉ raw
  | .tag element => element.WellFormed

/-- Texts are not empty, and no two of them stand side by side. -/
def Separated : List Segment → Prop
  | [] => True
  | .tag _ :: rest => Separated rest
  | .text raw :: rest =>
      raw ≠ [] ∧ (∀ other, rest.head? ≠ some (.text other)) ∧ Separated rest

end Segment

/-- The tags of a text, in order. -/
def tags (text : Text) : List Tag :=
  (segments text).filterMap Segment.tag?

/-- What stands between the tags of a text. -/
def contents (text : Text) : Text :=
  (segments text).flatMap Segment.content

/-- A printed segment is scanned in the steps it stands for. -/
theorem scan_raw_append
    {segment : Segment}
    (readable : segment.Readable)
    (rest : Text) :
    Tag.pattern.scan (segment.raw ++ rest) = segment.pieces ++ Tag.pattern.scan rest := by
  cases segment with
  | tag element => exact Pattern.scan_of_some (Tag.read?_raw readable rest)
  | text raw =>
      induction raw with
      | nil => rfl
      | cons first others inductionHypothesis =>
          simp only [Segment.Readable, List.mem_cons, not_or] at readable
          have unread := Tag.read?_of_ne (Ne.symm readable.1) (others ++ rest)
          have onward := inductionHypothesis readable.2
          simp only [Segment.raw, Segment.pieces, List.map_cons, List.cons_append] at onward ⊢
          rw [Pattern.scan_of_none unread, onward]

theorem scan_flatMap_raw
    {parts : List Segment}
    (readable : ∀ segment ∈ parts, segment.Readable) :
    Tag.pattern.scan (parts.flatMap Segment.raw) = parts.flatMap Segment.pieces := by
  induction parts with
  | nil => exact Pattern.scan_nil _
  | cons segment rest inductionHypothesis =>
      have restReadable : ∀ other ∈ rest, other.Readable :=
        fun other member => readable other (by simp [member])
      rw [List.flatMap_cons, scan_raw_append (readable segment (by simp)),
        inductionHypothesis restReadable, List.flatMap_cons]

namespace Segment

/-- A character joins the text that follows it. -/
theorem ofPieces_plain
    (char : Char)
    (rest : List (Piece Tag)) :
    (∃ raw others, ofPieces rest = .text raw :: others ∧
        ofPieces (.plain char :: rest) = .text (char :: raw) :: others) ∨
      ((∀ other, (ofPieces rest).head? ≠ some (.text other)) ∧
        ofPieces (.plain char :: rest) = .text [char] :: ofPieces rest) := by
  simp only [ofPieces]
  split
  · rename_i raw others shape
    exact .inl ⟨raw, others, shape, rfl⟩
  · rename_i noText
    refine .inr ⟨fun other isText => ?_, rfl⟩
    obtain ⟨others, shape⟩ := List.head?_eq_some_iff.mp isText
    exact noText other others shape

theorem filterMap_tag?_ofPieces
    (steps : List (Piece Tag)) :
    (ofPieces steps).filterMap tag? = steps.filterMap Piece.value? := by
  induction steps with
  | nil => rfl
  | cons step rest inductionHypothesis =>
      cases step with
      | found element => simp [ofPieces, tag?, Piece.value?, inductionHypothesis]
      | plain char =>
          rcases ofPieces_plain char rest with ⟨raw, others, shape, joined⟩ | ⟨_, joined⟩
          · rw [shape] at inductionHypothesis
            rw [joined]
            exact inductionHypothesis
          · rw [joined]
            exact inductionHypothesis

/-- The character of a step that is no tag. -/
def stepContent : Piece Tag → Text
  | .plain char => [char]
  | .found _ => []

theorem flatMap_content_ofPieces
    (steps : List (Piece Tag)) :
    (ofPieces steps).flatMap content = steps.flatMap stepContent := by
  induction steps with
  | nil => rfl
  | cons step rest inductionHypothesis =>
      cases step with
      | found element => simp [ofPieces, content, stepContent, inductionHypothesis]
      | plain char =>
          rcases ofPieces_plain char rest with ⟨raw, others, shape, joined⟩ | ⟨_, joined⟩
          · simpa [joined, shape, content, stepContent] using inductionHypothesis
          · simpa [joined, content, stepContent] using inductionHypothesis

/-- Joining keeps texts apart. -/
theorem separated_ofPieces
    (steps : List (Piece Tag)) :
    Separated (ofPieces steps) := by
  induction steps with
  | nil => trivial
  | cons step rest inductionHypothesis =>
      cases step with
      | found element => simpa [ofPieces, Separated] using inductionHypothesis
      | plain char =>
          rcases ofPieces_plain char rest with
              ⟨raw, others, shape, joined⟩ | ⟨noText, joined⟩
          · rw [shape] at inductionHypothesis
            rw [joined]
            exact ⟨by simp, inductionHypothesis.2⟩
          · rw [joined]
            exact ⟨by simp, noText, inductionHypothesis⟩

/-- The characters of a text in front of anything but a text become that text. -/
theorem ofPieces_text
    {raw : Text}
    {rest : List (Piece Tag)}
    (notEmpty : raw ≠ [])
    (noText : ∀ other, (ofPieces rest).head? ≠ some (.text other)) :
    ofPieces (raw.map .plain ++ rest) = .text raw :: ofPieces rest := by
  induction raw with
  | nil => exact absurd rfl notEmpty
  | cons first others inductionHypothesis =>
      rw [List.map_cons, List.cons_append]
      rcases others with _ | ⟨second, others⟩
      · rcases ofPieces_plain first rest with ⟨raw, _, shape, _⟩ | ⟨_, joined⟩
        · exact absurd (by simp [shape]) (noText raw)
        · exact joined
      · have joinedOthers := inductionHypothesis (by simp)
        rcases ofPieces_plain first ((second :: others).map .plain ++ rest) with
            ⟨raw, remaining, shape, joined⟩ | ⟨noOther, _⟩
        · rw [joinedOthers] at shape
          cases shape
          exact joined
        · exact absurd (by rw [joinedOthers]; rfl) (noOther (second :: others))

/-- Separated segments are joined from their steps. -/
theorem ofPieces_flatMap_pieces
    {parts : List Segment}
    (separated : Separated parts) :
    ofPieces (parts.flatMap pieces) = parts := by
  induction parts with
  | nil => rfl
  | cons segment rest inductionHypothesis =>
      cases segment with
      | tag element =>
          simp [pieces, ofPieces, inductionHypothesis separated]
      | text raw =>
          obtain ⟨notEmpty, noText, restSeparated⟩ := separated
          have joined := inductionHypothesis restSeparated
          rw [List.flatMap_cons, pieces, ofPieces_text notEmpty (by rw [joined]; exact noText),
            joined]

end Segment

theorem separated_segments
    (text : Text) :
    Segment.Separated (segments text) :=
  Segment.separated_ofPieces _

/-- Separated readable segments are read back exactly. -/
theorem segments_flatMap_raw
    {parts : List Segment}
    (readable : ∀ segment ∈ parts, segment.Readable)
    (separated : Segment.Separated parts) :
    segments (parts.flatMap Segment.raw) = parts := by
  rw [segments, scan_flatMap_raw readable, Segment.ofPieces_flatMap_pieces separated]

/-- The tags of printed segments are read back, whatever stands between them. -/
theorem tags_flatMap_raw
    {parts : List Segment}
    (readable : ∀ segment ∈ parts, segment.Readable) :
    tags (parts.flatMap Segment.raw) = parts.filterMap Segment.tag? := by
  rw [tags, segments, scan_flatMap_raw readable, Segment.filterMap_tag?_ofPieces,
    List.filterMap_flatMap, List.filterMap_eq_flatMap_toList]
  congr 1
  funext segment
  cases segment with
  | tag element => rfl
  | text raw =>
      simp [Segment.pieces, Segment.tag?, Piece.value?, List.filterMap_map, Function.comp_def]

/-- The text between printed tags is read back. -/
theorem contents_flatMap_raw
    {parts : List Segment}
    (readable : ∀ segment ∈ parts, segment.Readable) :
    contents (parts.flatMap Segment.raw) = parts.flatMap Segment.content := by
  rw [contents, segments, scan_flatMap_raw readable, Segment.flatMap_content_ofPieces,
    List.flatMap_assoc]
  congr 1
  funext segment
  cases segment with
  | tag element => rfl
  | text raw =>
      simp [Segment.pieces, Segment.content, Segment.stepContent, List.flatMap_map]

/-- Splitting loses nothing. -/
theorem flatMap_raw_segments
    (text : Text) :
    (segments text).flatMap Segment.raw = text := by
  have joined : ∀ steps : List (Piece Tag),
      (Segment.ofPieces steps).flatMap Segment.raw = steps.flatMap (Piece.render Tag.raw) := by
    intro steps
    induction steps with
    | nil => rfl
    | cons step rest inductionHypothesis =>
        cases step with
        | found element =>
            simp [Segment.ofPieces, Segment.raw, Piece.render, inductionHypothesis]
        | plain char =>
            rcases Segment.ofPieces_plain char rest with ⟨raw, _, shape, joined⟩ | ⟨_, joined⟩
            · simpa [joined, shape, Segment.raw, Piece.render] using inductionHypothesis
            · simpa [joined, Segment.raw, Piece.render] using inductionHypothesis
  rw [segments, joined]
  induction text using Tag.pattern.scan_induction with
  | nil => simp [Pattern.scan_nil]
  | found text element rest isFound inductionHypothesis =>
      rw [Pattern.scan_of_some isFound, List.flatMap_cons, inductionHypothesis]
      exact (Tag.read?_eq_some isFound).2.symm
  | plain first rest missing inductionHypothesis =>
      rw [Pattern.scan_of_none missing, List.flatMap_cons, inductionHypothesis]
      rfl

theorem wellFormed_of_mem_tags
    {text : Text}
    {element : Tag}
    (member : element ∈ tags text) :
    element.WellFormed := by
  rw [tags, segments, Segment.filterMap_tag?_ofPieces] at member
  induction text using Tag.pattern.scan_induction with
  | nil => simp [Pattern.scan_nil] at member
  | found text first rest isFound inductionHypothesis =>
      rw [Pattern.scan_of_some isFound] at member
      rcases List.mem_cons.mp member with rfl | inRest
      · exact (Tag.read?_eq_some isFound).1
      · exact inductionHypothesis inRest
  | plain first rest missing inductionHypothesis =>
      rw [Pattern.scan_of_none missing] at member
      exact inductionHypothesis member

theorem mem_tags
    {text : Text}
    {element : Tag} :
    element ∈ tags text ↔ .tag element ∈ segments text := by
  simp only [tags, List.mem_filterMap]
  constructor
  · rintro ⟨segment, member, isTag⟩
    cases segment with
    | text raw => cases isTag
    | tag other => exact Option.some.inj isTag ▸ member
  · exact fun member => ⟨.tag element, member, rfl⟩

/-- A tag, as it was written, is a part of the text. -/
theorem raw_infix_of_mem_tags
    {text : Text}
    {element : Tag}
    (member : element ∈ tags text) :
    element.raw <:+: text := by
  obtain ⟨before, after, shape⟩ := List.append_of_mem (mem_tags.mp member)
  have printed := flatMap_raw_segments text
  rw [shape] at printed
  refine ⟨before.flatMap Segment.raw, after.flatMap Segment.raw, ?_⟩
  rw [← printed]
  simp [Segment.raw]

/-- The body of a tag is a part of the text. -/
theorem infix_of_mem_tags
    {text : Text}
    {element : Tag}
    (member : element ∈ tags text) :
    element.body <:+: text := by
  apply List.IsInfix.trans _ (raw_infix_of_mem_tags member)
  exact ⟨(if element.closing then "</" else "<") ++ element.spelling, ">", by simp [Tag.raw]⟩

section Value

variable {text value rest : Text}

theorem infix_of_quotedValue?
    {quote : Char}
    (found : quotedValue? quote text = some (value, rest)) :
    value <:+: text ∧ rest <:+ text := by
  unfold quotedValue? cut at found
  split at found
  · rename_i cutValue cutRest isCut
    obtain ⟨rfl, rfl⟩ := Prod.mk.inj (Option.some.inj found)
    split at isCut
    · cases isCut
    · rename_i head tail isRest
      obtain ⟨rfl, same⟩ := Prod.mk.inj isCut
      obtain rfl := Option.some.inj same
      refine ⟨(List.takeWhile_prefix _).isInfix, ?_⟩
      exact (List.suffix_cons head tail).trans (isRest ▸ List.dropWhile_suffix _)
  · cases found

theorem infix_of_attributeValue?
    (found : attributeValue? text = some (value, rest)) :
    value <:+: text ∧ rest <:+ text := by
  unfold attributeValue? at found
  split at found
  · obtain ⟨isInfix, isSuffix⟩ := infix_of_quotedValue? found
    exact ⟨isInfix.trans (List.suffix_cons _ _).isInfix, isSuffix.trans (List.suffix_cons _ _)⟩
  · obtain ⟨isInfix, isSuffix⟩ := infix_of_quotedValue? found
    exact ⟨isInfix.trans (List.suffix_cons _ _).isInfix, isSuffix.trans (List.suffix_cons _ _)⟩
  · split at found
    · cases found
    · obtain ⟨rfl, rfl⟩ := Prod.mk.inj (Option.some.inj found)
      exact ⟨(List.takeWhile_prefix _).isInfix, List.dropWhile_suffix _⟩

theorem infix_of_assignedValue?
    (found : assignedValue? text = some (value, rest)) :
    value <:+: text ∧ rest <:+ text := by
  unfold assignedValue? at found
  split at found
  · rename_i remaining isRest
    obtain ⟨isInfix, isSuffix⟩ := infix_of_attributeValue? found
    have behind : remaining.dropWhile isBlank <:+ text :=
      ((List.dropWhile_suffix _).trans (List.suffix_cons '=' remaining)).trans
        (isRest ▸ List.dropWhile_suffix _)
    exact ⟨isInfix.trans behind.isInfix, isSuffix.trans behind⟩
  · cases found

/-- The value of an attribute is read off the text, and the rest is its end. -/
theorem infix_of_readAttribute?
    {entry : Attribute}
    (found : readAttribute? text = some (entry, rest)) :
    entry.2 <:+: text ∧ rest <:+ text := by
  unfold readAttribute? at found
  split at found
  · cases found
  · have behind : text.dropWhile isAttributeNameChar <:+ text := List.dropWhile_suffix _
    dsimp only at found
    split at found
    · rename_i assigned remaining isAssigned
      obtain ⟨rfl, rfl⟩ := Prod.mk.inj (Option.some.inj found)
      obtain ⟨isInfix, isSuffix⟩ := infix_of_assignedValue? isAssigned
      exact ⟨isInfix.trans behind.isInfix, isSuffix.trans behind⟩
    · obtain ⟨rfl, rfl⟩ := Prod.mk.inj (Option.some.inj found)
      exact ⟨List.nil_infix, behind⟩

end Value

/-- An attribute of a tag is read at some place in the body of the tag. -/
theorem exists_readAttribute?_eq_some
    {element : Tag}
    {entry : Attribute}
    (member : entry ∈ element.attributes) :
    ∃ text rest, text <:+ element.body ∧ readAttribute? text = some (entry, rest) := by
  unfold Tag.attributes at member
  generalize element.body = body at member ⊢
  induction body using attributePattern.scan_induction with
  | nil => simp at member
  | found body first rest isFound inductionHypothesis =>
      rw [Pattern.findAll_of_some isFound, List.mem_cons] at member
      rcases member with rfl | inRest
      · exact ⟨body, rest, List.suffix_rfl, isFound⟩
      · obtain ⟨text, left, isSuffix, found⟩ := inductionHypothesis inRest
        exact ⟨text, left, isSuffix.trans (infix_of_readAttribute? isFound).2, found⟩
  | plain first rest missing inductionHypothesis =>
      rw [Pattern.findAll_of_none missing] at member
      obtain ⟨text, left, isSuffix, found⟩ := inductionHypothesis member
      exact ⟨text, left, isSuffix.trans (List.suffix_cons first rest), found⟩

/-- The value of an attribute is a part of the body of its tag. -/
theorem infix_of_mem_attributes
    {element : Tag}
    {entry : Attribute}
    (member : entry ∈ element.attributes) :
    entry.2 <:+: element.body := by
  obtain ⟨text, rest, isSuffix, found⟩ := exists_readAttribute?_eq_some member
  exact (infix_of_readAttribute? found).1.trans isSuffix.isInfix

theorem mem_contents
    {text raw : Text}
    (isSegment : .text raw ∈ segments text)
    {char : Char}
    (member : char ∈ raw) :
    char ∈ contents text :=
  List.mem_flatMap.mpr ⟨.text raw, isSegment, member⟩

/-- A text without opening brackets has no tags and is all content. -/
theorem tags_and_contents_of_noBracket
    {text : Text}
    (noBracket : '<' ∉ text) :
    tags text = [] ∧ contents text = text := by
  have readable : ∀ segment ∈ [Segment.text text], segment.Readable := by
    intro segment member
    rw [List.mem_singleton.mp member]
    exact noBracket
  have shape : [Segment.text text].flatMap Segment.raw = text := by
    simp [Segment.raw]
  have noTags := tags_flatMap_raw readable
  have allContent := contents_flatMap_raw readable
  rw [shape] at noTags allContent
  exact ⟨noTags, by simpa [Segment.content] using allContent⟩

/-- A text without tags is all content. -/
theorem contents_of_noTags
    {text : Text}
    (noTags : tags text = []) :
    contents text = text := by
  have sameSegments : ∀ segment ∈ segments text, segment.content = segment.raw := by
    intro segment member
    cases segment with
    | text raw => rfl
    | tag element =>
        have isTag := mem_tags.mpr member
        rw [noTags] at isTag
        cases isTag
  rw [contents, List.flatMap_congr sameSegments, flatMap_raw_segments]

/-- Markup whose content holds no opening bracket is made of readable segments. -/
theorem readable_segments
    {text : Text}
    (noBracket : '<' ∉ contents text) :
    ∀ segment ∈ segments text, segment.Readable := by
  intro segment member
  cases segment with
  | text raw => exact fun isBracket => noBracket (mem_contents member isBracket)
  | tag element => exact wellFormed_of_mem_tags (mem_tags.mpr member)

end EmailComposer.Markup
