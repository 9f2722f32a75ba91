import EmailComposer.Proofs.Markup.Tag

namespace EmailComposer.Markup

/-!
# Replacing inside markup

A word that begins with the digit zero and holds no bracket stands in a text, or in the
body of a tag, but never across their borders and never in the name of a tag without
that digit. So replacing it in markup replaces it in every text and in every body, and
the segments stay what they are.
-/

open EmailComposer.Text

/-- The segment with its text, or the body of its tag, changed. -/
def Segment.mapText (change : Text → Text) : Segment → Segment
  | .text raw => .text (change raw)
  | .tag element => .tag { element with body := change element.body }

/-- What a tag says with the values of its attributes changed. -/
def TagView.mapValues (change : Text → Text) (view : TagView) : TagView :=
  { view with attributes := view.attributes.map fun entry => (entry.1, change entry.2) }

/-- What stands in front of the body of a tag. -/
def Tag.start (tag : Tag) : Text :=
  (if tag.closing then "</" else "<") ++ tag.spelling

theorem Tag.raw_append
    (tag : Tag)
    (rest : Text) :
    tag.raw ++ rest = tag.start ++ (tag.body ++ '>' :: rest) := by
  simp [raw, start]

theorem Tag.head?_start
    (tag : Tag) :
    tag.start.head? = some '<' := by
  cases isClosing : tag.closing <;> simp [start, isClosing]

section Replacement

variable {others replacement : Text}

/-- A run that ends in front of a text ends there afterwards, if it may hold the first
character of the target. -/
theorem stops_replaceAll
    {keeps : Char → Bool}
    {head : Char}
    (inClass : keeps head = true)
    {text : Text}
    (stops : Stops keeps text) :
    Stops keeps (replaceAll (head :: others) replacement text) := by
  cases text with
  | nil => simpa using stops
  | cons first rest =>
      have notInClass := stops_cons.mp stops
      have missing : ¬ head :: others <+: first :: rest := by
        rw [List.cons_prefix_cons]
        rintro ⟨rfl, _⟩
        rw [inClass] at notInClass
        cases notInClass
      rw [replaceAll_cons (by simp) missing]
      exact stops_cons.mpr notInClass

variable
  (targetNoBracket : ∀ char ∈ others, isNoBracket char = true)
  (noBracket : ∀ char ∈ replacement, isNoBracket char = true)

include noBracket in
theorem wellFormed_replaceAll
    {element : Tag}
    (wellFormed : element.WellFormed) :
    Tag.WellFormed
      { element with body := replaceAll ('0' :: others) replacement element.body } where
  startsWithLetter := wellFormed.startsWithLetter
  alphanumeric := wellFormed.alphanumeric
  endsWord := stops_replaceAll (by decide) wellFormed.endsWord
  noBracket := by
    intro char member
    rcases mem_replaceAll (by simp) member with inBody | inReplacement
    · exact wellFormed.noBracket char inBody
    · exact noBracket char inReplacement

include noBracket in
theorem readable_replaceAll
    {segment : Segment}
    (readable : segment.Readable) :
    (segment.mapText (replaceAll ('0' :: others) replacement)).Readable := by
  cases segment with
  | tag element => exact wellFormed_replaceAll noBracket readable
  | text raw =>
      intro isBracket
      rcases mem_replaceAll (by simp) isBracket with inText | inReplacement
      · exact readable inText
      · exact absurd (noBracket '<' inReplacement) (by decide)

include targetNoBracket in
theorem replaceAll_raw_tag
    {element : Tag}
    (noZero : '0' ∉ element.spelling)
    (rest : Text) :
    replaceAll ('0' :: others) replacement (element.raw ++ rest) =
      Tag.raw { element with body := replaceAll ('0' :: others) replacement element.body } ++
        replaceAll ('0' :: others) replacement rest := by
  have startNoZero : '0' ∉ element.start := by
    rw [Tag.start, List.mem_append, not_or]
    refine ⟨?_, noZero⟩
    split <;> decide
  have closerApart : '>' ∉ '0' :: others := by
    rw [List.mem_cons, not_or]
    refine ⟨by decide, fun member => ?_⟩
    exact absurd (targetNoBracket '>' member) (by decide)
  rw [Tag.raw_append, replaceAll_append startNoZero,
    replaceAll_append_cons (by simp) closerApart, Tag.raw_append]
  rfl

include targetNoBracket in
/-- Replacing in printed segments replaces in every one of them. -/
theorem replaceAll_flatMap_raw
    {parts : List Segment}
    (separated : Segment.Separated parts)
    (noZero : ∀ element, .tag element ∈ parts → '0' ∉ element.spelling) :
    replaceAll ('0' :: others) replacement (parts.flatMap Segment.raw) =
      (parts.map (Segment.mapText (replaceAll ('0' :: others) replacement))).flatMap
        Segment.raw := by
  induction parts with
  | nil => simp
  | cons segment rest inductionHypothesis =>
      have restNoZero : ∀ element, .tag element ∈ rest → '0' ∉ element.spelling :=
        fun element member => noZero element (by simp [member])
      cases segment with
      | tag element =>
          have onward := inductionHypothesis separated restNoZero
          rw [List.flatMap_cons, Segment.raw,
            replaceAll_raw_tag targetNoBracket (noZero element (by simp)), onward]
          rfl
      | text raw =>
          obtain ⟨_, noText, restSeparated⟩ := separated
          have onward := inductionHypothesis restSeparated restNoZero
          -- A text is followed by the bracket of a tag, which no occurrence holds.
          have apart : ∀ char ∈ (rest.flatMap Segment.raw).head?, char ∉ '0' :: others := by
            intro char isHead
            cases rest with
            | nil => cases isHead
            | cons next remaining =>
                cases next with
                | text other => exact absurd rfl (noText other)
                | tag element =>
                    have isBracket : char = '<' := by
                      rw [List.flatMap_cons, Segment.raw, Tag.raw_append, Option.mem_def,
                        List.head?_append, element.head?_start] at isHead
                      exact (Option.some.inj isHead).symm
                    rw [isBracket, List.mem_cons, not_or]
                    refine ⟨by decide, fun member => ?_⟩
                    exact absurd (targetNoBracket '<' member) (by decide)
          rw [List.flatMap_cons, replaceAll_append_of_head (by simp) apart, onward]
          rfl

/-- Changing texts keeps them apart, if none of them becomes empty. -/
theorem separated_map
    {change : Text → Text}
    (notEmpty : ∀ text, text ≠ [] → change text ≠ [])
    {parts : List Segment}
    (separated : Segment.Separated parts) :
    Segment.Separated (parts.map (Segment.mapText change)) := by
  induction parts with
  | nil => trivial
  | cons segment rest inductionHypothesis =>
      cases segment with
      | tag element => exact inductionHypothesis separated
      | text raw =>
          obtain ⟨hasText, noText, restSeparated⟩ := separated
          refine ⟨notEmpty raw hasText, fun other isText => ?_, inductionHypothesis restSeparated⟩
          cases rest with
          | nil => cases isText
          | cons next remaining =>
              cases next with
              | text following => exact noText following rfl
              | tag element => cases isText

include targetNoBracket noBracket in
/-- Replacing in markup without loose brackets replaces in every segment of it. -/
theorem segments_replaceAll
    (shown : replacement ≠ [])
    {html : Text}
    (readable : ∀ segment ∈ segments html, segment.Readable)
    (noZero : ∀ element ∈ tags html, '0' ∉ element.spelling) :
    segments (replaceAll ('0' :: others) replacement html) =
      (segments html).map (Segment.mapText (replaceAll ('0' :: others) replacement)) := by
  have printed : replaceAll ('0' :: others) replacement _ = _ :=
    replaceAll_flatMap_raw targetNoBracket (separated_segments html) fun element member =>
      noZero element (mem_tags.mpr member)
  rw [flatMap_raw_segments] at printed
  rw [printed]
  refine segments_flatMap_raw ?_ (separated_map (fun text hasText => ?_) (separated_segments html))
  · intro segment member
    obtain ⟨source, isSource, rfl⟩ := List.mem_map.mp member
    exact readable_replaceAll noBracket (readable source isSource)
  · exact replaceAll_ne_nil (by simp) shown hasText

/-- Replacing in printed attributes replaces in their values. -/
theorem replaceAll_printAttribute
    {entries : List Attribute}
    (noZero : ∀ entry ∈ entries, '0' ∉ entry.1)
    (noQuote : '"' ∉ others)
    (rest : Text) :
    replaceAll ('0' :: others) replacement (entries.flatMap printAttribute ++ rest) =
      (entries.map fun entry =>
          (entry.1, replaceAll ('0' :: others) replacement entry.2)).flatMap printAttribute ++
        replaceAll ('0' :: others) replacement rest := by
  have quoteApart : '"' ∉ '0' :: others := by
    rw [List.mem_cons, not_or]
    exact ⟨by decide, noQuote⟩
  induction entries with
  | nil => rfl
  | cons entry remaining inductionHypothesis =>
      have onward := inductionHypothesis fun other member => noZero other (by simp [member])
      have startNoZero : '0' ∉ ' ' :: entry.1 ++ ['=', '"'] := by
        simpa using noZero entry (by simp)
      have shape : (entry :: remaining).flatMap printAttribute ++ rest =
          (' ' :: entry.1 ++ ['=', '"']) ++
            (entry.2 ++ '"' :: (remaining.flatMap printAttribute ++ rest)) := by
        simp [printAttribute]
      rw [shape, replaceAll_append startNoZero, replaceAll_append_cons (by simp) quoteApart, onward]
      simp [printAttribute]

/-- Replacing in a body in normal form replaces in the values of its attributes. -/
theorem replaceAll_body
    {view : TagView}
    (noZero : ∀ entry ∈ view.attributes, '0' ∉ entry.1)
    (noQuote : '"' ∉ others) :
    replaceAll ('0' :: others) replacement view.body =
      (view.mapValues (replaceAll ('0' :: others) replacement)).body := by
  have endingNoZero : '0' ∉ view.ending := by
    unfold TagView.ending
    split <;> decide
  have endingKept : replaceAll ('0' :: others) replacement (view.ending ++ []) = _ :=
    replaceAll_append endingNoZero []
  rw [List.append_nil] at endingKept
  rw [TagView.body, replaceAll_printAttribute noZero noQuote, endingKept]
  simp [TagView.body, TagView.mapValues, TagView.ending]

end Replacement

end EmailComposer.Markup
