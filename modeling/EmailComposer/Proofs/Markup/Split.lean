import EmailComposer.Proofs.Markup.Segment

namespace EmailComposer.Markup

/-!
# The one split of a text

Whether a tag begins somewhere depends on the characters up to its closing bracket and on
nothing behind them. So splitting leaves no tag inside a text, every segment is found again
when it is split on its own, and no other list of such segments makes up the same text.
-/

open EmailComposer.Text

/-- No tag begins anywhere in the text. -/
def HoldsNoTag (text : Text) : Prop :=
  ∀ rest, rest <:+ text → Tag.read? rest = none

/--
A list of segments splits a text: written one after another they are the text, no segment
could be joined with its neighbour, and each of them is a segment by itself. A tag reaches
from an opening to a closing bracket, with no other bracket in between.
-/
structure IsSplit (text : Text) (parts : List Segment) : Prop where
  written : parts.flatMap Segment.raw = text
  separated : Segment.Separated parts
  bracketed :
    ∀ element,
      .tag element ∈ parts →
      ∃ inner,
        element.raw = '<' :: (inner ++ ['>']) ∧
          ∀ char ∈ inner, isNoBracket char = true
  alone : ∀ segment ∈ parts, segments segment.raw = [segment]

namespace Tag

variable {text rest : Text} {tag : Tag}

/-- A tag is read whatever follows it. -/
theorem read?_append
    (found : read? text = some (tag, rest))
    (more : Text) :
    read? (text ++ more) = some (tag, rest ++ more) := by
  obtain ⟨wellFormed, rfl⟩ := read?_eq_some found
  rw [List.append_assoc]
  exact read?_raw wellFormed (rest ++ more)

/-- No tag is read at the beginning of a text where none is read at that of a longer one. -/
theorem read?_of_append
    {more : Text}
    (missing : read? (text ++ more) = none) :
    read? text = none := by
  rw [Option.eq_none_iff_forall_ne_some]
  intro ⟨element, left⟩ found
  rw [read?_append found more] at missing
  cases missing

/-- A tag reaches from an opening to a closing bracket, with no other bracket in between. -/
theorem WellFormed.exists_raw_eq
    (wellFormed : tag.WellFormed) :
    ∃ inner,
      tag.raw = '<' :: (inner ++ ['>']) ∧
        ∀ char ∈ inner, isNoBracket char = true := by
  have nameInside : ∀ char ∈ tag.spelling, isNoBracket char = true := by
    intro char member
    have alphanumeric := wellFormed.alphanumeric char member
    have noBrackets : ∀ bracket ∈ ['<', '>'], isAsciiAlphanumeric bracket = false := by
      decide
    have apart : char ∉ ['<', '>'] := by
      intro isBracket
      simp [noBrackets char isBracket] at alphanumeric
    simpa [isNoBracket] using apart
  have inside : ∀ char ∈ tag.spelling ++ tag.body, isNoBracket char = true :=
    List.forall_mem_append.mpr ⟨nameInside, wellFormed.noBracket⟩
  cases isClosing : tag.closing with
  | true =>
      refine ⟨'/' :: (tag.spelling ++ tag.body), by simp [raw, isClosing], ?_⟩
      exact List.forall_mem_cons.mpr ⟨by decide, inside⟩
  | false =>
      exact ⟨tag.spelling ++ tag.body, by simp [raw, isClosing], inside⟩

/-- A tag that is missing from a text is not completed behind it by an opening bracket. -/
theorem read?_append_bracket
    (notEmpty : text ≠ [])
    (missing : read? text = none)
    (rest : Text) :
    read? (text ++ '<' :: rest) = none := by
  rw [Option.eq_none_iff_forall_ne_some]
  rintro ⟨tag, left⟩ found
  obtain ⟨wellFormed, shape⟩ := read?_eq_some found
  rcases List.append_eq_append_iff.mp shape with ⟨middle, rawShape, restShape⟩ | ⟨middle, rfl, _⟩
  · obtain ⟨first, others, rfl⟩ := List.exists_cons_of_ne_nil notEmpty
    obtain ⟨inner, bracketed, inside⟩ := wellFormed.exists_raw_eq
    cases middle with
    | nil =>
        have whole := read?_raw wellFormed []
        rw [rawShape, List.append_nil, List.append_nil, missing] at whole
        cases whole
    | cons head more =>
        -- The tag would hold the second opening bracket.
        obtain ⟨rfl, _⟩ := List.cons.inj restShape
        have innerShape := (List.cons.inj (bracketed.symm.trans rawShape)).2
        have isInside : '<' ∈ inner ++ ['>'] := by
          simp [innerShape]
        have inInner : '<' ∈ inner := by
          simpa using isInside
        exact absurd (inside '<' inInner) (by decide)
  · rw [read?_raw wellFormed] at missing
    cases missing

end Tag

section HoldsNoTag

variable {first : Char} {text raw rest : Text}

theorem holdsNoTag_nil : HoldsNoTag [] := by
  intro rest isSuffix
  rw [List.suffix_nil.mp isSuffix]
  rfl

theorem holdsNoTag_cons :
    HoldsNoTag (first :: rest) ↔ Tag.read? (first :: rest) = none ∧ HoldsNoTag rest := by
  simp only [HoldsNoTag, List.suffix_cons_iff, forall_eq_or_imp]

/-- A text without tags is scanned character by character, up to the next tag. -/
theorem scan_append_of_holdsNoTag
    (noTag : HoldsNoTag text)
    (startsTag : ∀ char ∈ rest.head?, char = '<') :
    Tag.pattern.scan (text ++ rest) = text.map .plain ++ Tag.pattern.scan rest := by
  induction text with
  | nil => rfl
  | cons first others inductionHypothesis =>
      obtain ⟨missing, othersNoTag⟩ := holdsNoTag_cons.mp noTag
      have unread : Tag.read? (first :: (others ++ rest)) = none := by
        cases rest with
        | nil => rwa [List.append_nil]
        | cons head tail =>
            rw [startsTag head rfl]
            exact Tag.read?_append_bracket (by simp) missing tail
      rw [List.cons_append, Pattern.scan_of_none unread, inductionHypothesis othersNoTag]
      rfl

/-- The texts of a split hold no tag: where one begins, it is split off. -/
theorem holdsNoTag_of_mem_segments
    (member : .text raw ∈ segments text) :
    HoldsNoTag raw := by
  induction text using Tag.pattern.scan_induction generalizing raw with
  | nil => simp [segments, Pattern.scan_nil, Segment.ofPieces] at member
  | found text element rest isFound inductionHypothesis =>
      rw [segments, Pattern.scan_of_some isFound] at member
      simp only [Segment.ofPieces, List.mem_cons, reduceCtorEq, false_or] at member
      exact inductionHypothesis member
  | plain first rest missing inductionHypothesis =>
      replace missing : Tag.read? (first :: rest) = none := missing
      have written : (segments rest).flatMap Segment.raw = rest := flatMap_raw_segments rest
      rw [segments, Pattern.scan_of_none missing] at member
      rcases Segment.ofPieces_plain first (Tag.pattern.scan rest) with
          ⟨run, others, shape, joined⟩ | ⟨_, joined⟩
      · -- The run that the character joins goes on as the rest of the text does.
        replace shape : segments rest = .text run :: others := shape
        rw [shape] at written inductionHypothesis
        rw [joined] at member
        rcases List.mem_cons.mp member with same | inOthers
        · cases same
          have goesOn : first :: run ++ others.flatMap Segment.raw = first :: rest :=
            congrArg (first :: ·) written
          rw [← goesOn] at missing
          exact holdsNoTag_cons.mpr
            ⟨Tag.read?_of_append missing, inductionHypothesis (by simp)⟩
        · exact inductionHypothesis (by simp [inOthers])
      · rw [joined] at member
        rcases List.mem_cons.mp member with same | inRest
        · cases same
          exact holdsNoTag_cons.mpr ⟨Tag.read?_of_append missing, holdsNoTag_nil⟩
        · exact inductionHypothesis inRest

end HoldsNoTag

namespace Segment

/-- A segment that is found as a whole: a text that holds no tag, or a well-formed tag. -/
def IsWhole : Segment → Prop
  | .text raw => HoldsNoTag raw
  | .tag element => element.WellFormed

theorem Separated.ne_nil
    {parts : List Segment}
    (separated : Separated parts)
    {raw : Text}
    (member : .text raw ∈ parts) :
    raw ≠ [] := by
  induction parts with
  | nil => cases member
  | cons segment rest inductionHypothesis =>
      cases segment with
      | tag element =>
          exact inductionHypothesis separated (by simpa using member)
      | text other =>
          obtain ⟨notEmpty, _, restSeparated⟩ := separated
          rcases List.mem_cons.mp member with same | inRest
          · cases same
            exact notEmpty
          · exact inductionHypothesis restSeparated inRest

end Segment

/-- Every segment of a text is found as a whole. -/
theorem isWhole_of_mem_segments
    {text : Text}
    {segment : Segment}
    (member : segment ∈ segments text) :
    segment.IsWhole := by
  cases segment with
  | text raw => exact holdsNoTag_of_mem_segments member
  | tag element => exact wellFormed_of_mem_tags (mem_tags.mpr member)

/-- Separated whole segments are scanned in the steps they stand for. -/
theorem scan_flatMap_raw_of_isWhole
    {parts : List Segment}
    (separated : Segment.Separated parts)
    (areWhole : ∀ segment ∈ parts, segment.IsWhole) :
    Tag.pattern.scan (parts.flatMap Segment.raw) = parts.flatMap Segment.pieces := by
  induction parts with
  | nil => exact Pattern.scan_nil _
  | cons segment rest inductionHypothesis =>
      obtain ⟨isWhole, restWhole⟩ := List.forall_mem_cons.mp areWhole
      cases segment with
      | tag element =>
          have isReadable : (Segment.tag element).Readable := isWhole
          have step := scan_raw_append isReadable (rest.flatMap Segment.raw)
          rw [List.flatMap_cons, step, inductionHypothesis separated restWhole,
            List.flatMap_cons]
      | text raw =>
          obtain ⟨_, noText, restSeparated⟩ := separated
          -- Behind a text stands a tag or nothing, so the text goes on into no tag.
          have startsTag : ∀ char ∈ (rest.flatMap Segment.raw).head?, char = '<' := by
            intro char isHead
            cases rest with
            | nil => cases isHead
            | cons next others =>
                cases next with
                | text other => exact absurd rfl (noText other)
                | tag element =>
                    obtain ⟨inner, bracketed, _⟩ :=
                      Tag.WellFormed.exists_raw_eq (restWhole (.tag element) (by simp))
                    rw [List.flatMap_cons, Segment.raw, bracketed] at isHead
                    exact (Option.some.inj isHead).symm
          have step := scan_append_of_holdsNoTag isWhole startsTag
          have restScanned := inductionHypothesis restSeparated restWhole
          rw [List.flatMap_cons, Segment.raw, step, restScanned, List.flatMap_cons,
            Segment.pieces]

/-- Separated whole segments are found again. -/
theorem segments_flatMap_raw_of_isWhole
    {parts : List Segment}
    (separated : Segment.Separated parts)
    (areWhole : ∀ segment ∈ parts, segment.IsWhole) :
    segments (parts.flatMap Segment.raw) = parts := by
  rw [segments, scan_flatMap_raw_of_isWhole separated areWhole,
    Segment.ofPieces_flatMap_pieces separated]

/-- A segment of a text is the one segment of what is written for it. -/
theorem segments_raw_of_mem_segments
    {text : Text}
    {segment : Segment}
    (member : segment ∈ segments text) :
    segments segment.raw = [segment] := by
  have separated : Segment.Separated [segment] := by
    cases segment with
    | tag element => trivial
    | text raw => exact ⟨(separated_segments text).ne_nil member, by simp, trivial⟩
  have isWhole : ∀ other ∈ [segment], other.IsWhole :=
    List.forall_mem_singleton.mpr (isWhole_of_mem_segments member)
  have found := segments_flatMap_raw_of_isWhole separated isWhole
  rwa [List.flatMap_singleton] at found

/-- Splitting splits. -/
theorem isSplit_segments
    (text : Text) :
    IsSplit text (segments text) where
  written := flatMap_raw_segments text
  separated := separated_segments text
  bracketed _ member :=
    (wellFormed_of_mem_tags (mem_tags.mpr member)).exists_raw_eq
  alone _ := segments_raw_of_mem_segments

/--
The segments of a text are its one split. They lose nothing, no two texts stand side by side,
a tag holds no bracket but those at its ends, and each segment is found again when it is
split on its own.
-/
theorem segments_eq_iff_isSplit
    (html : Text)
    (parts : List Segment) :
    segments html = parts ↔ IsSplit html parts := by
  constructor
  · rintro rfl
    exact isSplit_segments html
  · intro isSplit
    have areWhole : ∀ segment ∈ parts, segment.IsWhole := by
      intro segment member
      have isAlone : segment ∈ segments segment.raw := by
        simp [isSplit.alone segment member]
      exact isWhole_of_mem_segments isAlone
    rw [← isSplit.written]
    exact segments_flatMap_raw_of_isWhole isSplit.separated areWhole

end EmailComposer.Markup
