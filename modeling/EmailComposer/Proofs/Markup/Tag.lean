import EmailComposer.Markup.Sanitize
import EmailComposer.Proofs.Markup.Segment

namespace EmailComposer.Markup

/-!
# Printed tags

A tag says four things: whether it closes, its name, whether it closes itself, and
its attributes. Printing them in normal form and reading the tag back gives the same
four things.
-/

open EmailComposer.Text

/-- What a tag says. -/
structure TagView where
  closing : Bool
  name : Text
  selfClosing : Bool
  attributes : List Attribute
  deriving Repr, DecidableEq

/-- What a reader takes from a tag. -/
def Tag.view (tag : Tag) : TagView where
  closing := tag.closing
  name := tag.name
  selfClosing := tag.selfClosing
  attributes := tag.attributes

/-- An attribute whose printed form is read back. -/
structure IsPrintable (entry : Attribute) : Prop where
  hasName : entry.1 ≠ []
  nameChars : ∀ char ∈ entry.1, isAttributeNameChar char = true
  isLower : lower entry.1 = entry.1
  valueChars : ∀ char ∈ entry.2, char ∉ ['<', '>', '"']

/-- The name of a tag that is read back. -/
structure IsTagName (name : Text) : Prop where
  startsWithLetter : (name.head?.map isAsciiLetter).getD false = true
  alphanumeric : ∀ char ∈ name, isAsciiAlphanumeric char = true
  isLower : lower name = name

namespace TagView

/-- What stands in front of the closing bracket of a tag. -/
def ending (view : TagView) : Text :=
  if view.selfClosing then " /" else ""

/-- The body of a tag in normal form. -/
def body (view : TagView) : Text :=
  view.attributes.flatMap printAttribute ++ view.ending

/-- The tag in normal form that says the same. -/
def print (view : TagView) : Tag :=
  ⟨view.closing, view.name, view.body⟩

/-- The printed form says the same. -/
structure Printable (view : TagView) : Prop where
  name : IsTagName view.name
  attributes : ∀ entry ∈ view.attributes, IsPrintable entry

end TagView

/-- An attribute in normal form is read back. -/
theorem readAttribute?_print
    {entry : Attribute}
    (printable : IsPrintable entry)
    (rest : Text) :
    readAttribute? (entry.1 ++ '=' :: '"' :: (entry.2 ++ '"' :: rest)) = some (entry, rest) := by
  have nameStops : Stops isAttributeNameChar ('=' :: '"' :: (entry.2 ++ '"' :: rest)) :=
    stops_cons.mpr (by decide)
  have noQuote : '"' ∉ entry.2 := by
    intro member
    exact printable.valueChars '"' member (by simp)
  have assigned : assignedValue? ('=' :: '"' :: (entry.2 ++ '"' :: rest)) =
      some (entry.2, rest) := by
    have equalsStays : ('=' :: '"' :: (entry.2 ++ '"' :: rest)).dropWhile isBlank =
        '=' :: '"' :: (entry.2 ++ '"' :: rest) := rfl
    have quoteStays : ('"' :: (entry.2 ++ '"' :: rest)).dropWhile isBlank =
        '"' :: (entry.2 ++ '"' :: rest) := rfl
    rw [assignedValue?, equalsStays]
    show attributeValue? (('"' :: (entry.2 ++ '"' :: rest)).dropWhile isBlank) = _
    rw [quoteStays, attributeValue?, quotedValue?, cut_append_cons noQuote]
  unfold readAttribute?
  rw [takeWhile_run_append printable.nameChars nameStops,
    dropWhile_run_append printable.nameChars nameStops]
  split
  · exact absurd ‹_› printable.hasName
  · simp only [assigned, printable.isLower]

/-- Only a character of attribute names starts an attribute. -/
theorem readAttribute?_of_not_name
    {first : Char}
    (notName : isAttributeNameChar first = false)
    (rest : Text) :
    readAttribute? (first :: rest) = none := by
  simp [readAttribute?, notName]

/-- Attributes in normal form are read back, with anything behind them that is no
attribute. -/
theorem findAll_attributes
    {entries : List Attribute}
    (printable : ∀ entry ∈ entries, IsPrintable entry)
    {ending : Text}
    (notName : ∀ char ∈ ending, isAttributeNameChar char = false) :
    attributePattern.findAll (entries.flatMap printAttribute ++ ending) = entries := by
  induction entries with
  | nil =>
      rw [List.flatMap_nil, List.nil_append]
      induction ending with
      | nil => simp
      | cons first rest inductionHypothesis =>
          have missing : attributePattern.read? (first :: rest) = none :=
            readAttribute?_of_not_name (notName first (by simp)) rest
          rw [Pattern.findAll_of_none missing,
            inductionHypothesis fun char member => notName char (by simp [member])]
  | cons entry others inductionHypothesis =>
      have onward := inductionHypothesis fun other member => printable other (by simp [member])
      have found := readAttribute?_print (printable entry (by simp))
        (others.flatMap printAttribute ++ ending)
      have blank : ∀ rest, attributePattern.read? (' ' :: rest) = none :=
        fun rest => readAttribute?_of_not_name (by decide : isAttributeNameChar ' ' = false) rest
      have shape : (entry :: others).flatMap printAttribute ++ ending =
          ' ' :: (entry.1 ++ '=' :: '"' :: (entry.2 ++ '"' ::
            (others.flatMap printAttribute ++ ending))) := by
        simp [printAttribute]
      rw [shape, Pattern.findAll_of_none (blank _), Pattern.findAll_of_some found, onward]

namespace TagView

variable {view : TagView}

/-- The end of a body is a blank and a slash, or nothing. -/
theorem eq_of_mem_ending
    {char : Char}
    (member : char ∈ view.ending) :
    char = ' ' ∨ char = '/' := by
  unfold ending at member
  split at member
  · simpa using member
  · simp at member

theorem attributes_print
    (printable : view.Printable) :
    view.print.attributes = view.attributes :=
  findAll_attributes printable.attributes fun _ member => by
    rcases eq_of_mem_ending member with rfl | rfl <;> decide

/-- A text that ends with no blank ends with a slash only if that is its last character. -/
theorem endsWith_slash_concat
    {last : Char}
    (notBlank : isBlank last = false)
    (start : Text) :
    endsWith "/" (dropEndWhile isBlank (start ++ [last])) = (last == '/') := by
  have kept : dropEndWhile isBlank (start ++ [last]) = start ++ [last] := by
    simp [dropEndWhile, notBlank]
  rw [kept, endsWith]
  simp [List.isSuffixOf, List.isPrefixOf, BEq.comm]

/-- A printed tag closes itself exactly if it should. -/
theorem selfClosing_print :
    view.print.selfClosing = view.selfClosing := by
  show endsWith "/" (dropEndWhile isBlank view.body) = view.selfClosing
  cases closes : view.selfClosing with
  | true =>
      have shape : view.body = (view.attributes.flatMap printAttribute ++ [' ']) ++ ['/'] := by
        simp [body, ending, closes]
      rw [shape, endsWith_slash_concat (by decide)]
      rfl
  | false =>
      rcases List.eq_nil_or_concat view.attributes with none | ⟨start, last, some⟩
      · have shape : view.body = [] := by
          simp [body, ending, closes, none]
        rw [shape]
        rfl
      · have shape : view.body =
            (start.flatMap printAttribute ++ (' ' :: last.1 ++ '=' :: '"' :: last.2)) ++
              ['"'] := by
          simp [body, ending, closes, some, printAttribute]
        rw [shape, endsWith_slash_concat (by decide)]
        rfl

/-- A body in normal form is empty or begins with a blank. -/
theorem body_eq_nil_or_cons
    (view : TagView) :
    view.body = [] ∨ ∃ rest, view.body = ' ' :: rest := by
  cases shape : view.attributes with
  | cons entry others =>
      exact .inr ⟨_, by simp [body, shape, printAttribute]; rfl⟩
  | nil =>
      cases closes : view.selfClosing with
      | true => exact .inr ⟨['/'], by simp [body, ending, shape, closes]⟩
      | false => exact .inl (by simp [body, ending, shape, closes])

theorem isNoBracket_of_mem_printAttribute
    {entry : Attribute}
    (printable : IsPrintable entry)
    {char : Char}
    (member : char ∈ printAttribute entry) :
    isNoBracket char = true := by
  have spelled : printAttribute entry = [' '] ++ entry.1 ++ ['=', '"'] ++ entry.2 ++ ['"'] := rfl
  simp only [spelled, List.mem_append, List.mem_cons, List.not_mem_nil, or_false] at member
  rcases member with (((rfl | inName) | (rfl | rfl)) | inValue) | rfl
  · decide
  · have nameChar := printable.nameChars char inName
    simp only [isAttributeNameChar, Bool.and_eq_true, decide_eq_true_eq, List.mem_cons,
      not_or] at nameChar
    simp [isNoBracket, nameChar]
  · decide
  · decide
  · have valueChar := printable.valueChars char inValue
    simp only [List.mem_cons, not_or] at valueChar
    simp [isNoBracket, valueChar]
  · decide

theorem wellFormed_print
    (printable : view.Printable) :
    view.print.WellFormed where
  startsWithLetter := printable.name.startsWithLetter
  alphanumeric := printable.name.alphanumeric
  endsWord := by
    show Stops isWord view.body
    rcases view.body_eq_nil_or_cons with isNil | ⟨rest, isCons⟩
    · rw [isNil]
      exact stops_nil
    · rw [isCons]
      exact stops_cons.mpr (by decide)
  noBracket := by
    intro char member
    rcases List.mem_append.mp member with inAttributes | inEnding
    · obtain ⟨entry, isEntry, inEntry⟩ := List.mem_flatMap.mp inAttributes
      exact isNoBracket_of_mem_printAttribute (printable.attributes entry isEntry) inEntry
    · rcases eq_of_mem_ending inEnding with rfl | rfl <;> decide

/-- A printed tag says what it was printed from. -/
theorem view_print
    (printable : view.Printable) :
    view.print.view = view := by
  have sameName : view.print.name = view.name := printable.name.isLower
  rw [Tag.view, sameName, attributes_print printable, selfClosing_print]
  rfl

end TagView

end EmailComposer.Markup
