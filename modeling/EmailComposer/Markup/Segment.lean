import EmailComposer.Text.Case
import EmailComposer.Text.Pattern

namespace EmailComposer.Markup

/-!
# Segments of markup

Markup is split into runs of text and tags. A tag is an opening angle bracket, a
name of ASCII letters and digits that no further word character continues, and a
body up to the next closing bracket without any other angle bracket; a bracket
that starts no tag belongs to the text around it.
-/

open EmailComposer.Text

/-- A tag as it was written: its name in the letter case of the author and
everything between the name and the closing bracket. -/
structure Tag where
  closing : Bool
  spelling : Text
  body : Text
  deriving Repr, DecidableEq

/-- An attribute name in lower case and its value, empty if none was given. -/
abbrev Attribute := Text × Text

/-- A run of text or one tag. -/
inductive Segment where
  | text (raw : Text)
  | tag (element : Tag)
  deriving Repr, DecidableEq

/-- Neither angle bracket. -/
def isNoBracket (char : Char) : Bool :=
  char != '<' && char != '>'

/-- A character that attribute names are made of. -/
def isAttributeNameChar (char : Char) : Bool :=
  !isBlank char && char ∉ ['"', '\x27', '<', '>', '/', '=']

/-- A character that attribute values without quotes are made of. -/
def isBareValueChar (char : Char) : Bool :=
  !isBlank char && char ∉ ['"', '\x27', '<', '>', '=', '\x60']

/-- The value behind an opening quote and what follows its closing quote. -/
def quotedValue? (quote : Char) (text : Text) : Option (Text × Text) :=
  match cut quote text with
  | (value, some rest) => some (value, rest)
  | (_, none) => none

/-- An attribute value at the beginning of a text, in either kind of quotes or
bare, and what follows it. -/
def attributeValue? : Text → Option (Text × Text)
  | '"' :: rest => quotedValue? '"' rest
  | '\x27' :: rest => quotedValue? '\x27' rest
  | text =>
      match text.takeWhile isBareValueChar with
      | [] => none
      | value => some (value, text.dropWhile isBareValueChar)

/-- The value that an equals sign assigns to the name just read, and what follows
it; blanks may stand on both sides of the sign. -/
def assignedValue? (text : Text) : Option (Text × Text) :=
  match text.dropWhile isBlank with
  | '=' :: rest => attributeValue? (rest.dropWhile isBlank)
  | _ => none

/-- An attribute at the beginning of a text. A name without a readable value has
the empty value, and reading goes on right behind the name. -/
def readAttribute? (text : Text) : Option (Attribute × Text) :=
  match text.takeWhile isAttributeNameChar with
  | [] => none
  | name =>
      let rest := text.dropWhile isAttributeNameChar
      match assignedValue? rest with
      | some (value, remaining) => some ((lower name, value), remaining)
      | none => some ((lower name, []), rest)

theorem length_dropWhile_le
    (keeps : Char → Bool)
    (text : Text) :
    (text.dropWhile keeps).length ≤ text.length :=
  (List.dropWhile_suffix keeps).length_le

theorem length_dropWhile_lt
    {keeps : Char → Bool}
    {text : Text}
    (notEmpty : text.takeWhile keeps ≠ []) :
    (text.dropWhile keeps).length < text.length := by
  have lengths := congrArg List.length (List.takeWhile_append_dropWhile (p := keeps) (l := text))
  have positive := List.length_pos_iff.mpr notEmpty
  simp only [List.length_append] at lengths
  omega

theorem length_of_cut_eq_some
    {separator : Char}
    {text value rest : Text}
    (found : cut separator text = (value, some rest)) :
    rest.length < text.length := by
  unfold cut at found
  have short := length_dropWhile_le (fun char => char != separator) text
  split at found
  · simp at found
  · rename_i head tail isRest
    rw [isRest] at short
    simp only [Prod.mk.injEq, Option.some.injEq] at found
    rw [← found.2]
    simp at short
    omega

theorem length_of_quotedValue?
    {quote : Char}
    {text value rest : Text}
    (found : quotedValue? quote text = some (value, rest)) :
    rest.length < text.length := by
  unfold quotedValue? at found
  split at found
  · rename_i cutValue cutRest isCut
    simp only [Option.some.injEq, Prod.mk.injEq] at found
    exact found.2 ▸ length_of_cut_eq_some isCut
  · simp at found

theorem length_of_attributeValue?
    {text value rest : Text}
    (found : attributeValue? text = some (value, rest)) :
    rest.length < text.length := by
  unfold attributeValue? at found
  split at found
  · have short := length_of_quotedValue? found
    simp only [List.length_cons]
    omega
  · have short := length_of_quotedValue? found
    simp only [List.length_cons]
    omega
  · split at found
    · simp at found
    · rename_i bare notEmpty
      simp only [Option.some.injEq, Prod.mk.injEq] at found
      exact found.2 ▸ length_dropWhile_lt notEmpty

theorem length_of_assignedValue?
    {text value rest : Text}
    (found : assignedValue? text = some (value, rest)) :
    rest.length < text.length := by
  unfold assignedValue? at found
  have short := length_dropWhile_le isBlank text
  split at found
  · rename_i remaining isRest
    have shorter := length_of_attributeValue? found
    have shortest := length_dropWhile_le isBlank remaining
    rw [isRest] at short
    simp only [List.length_cons] at short
    omega
  · simp at found

/-- Recognises one attribute. -/
def attributePattern : Pattern Attribute where
  read? := readAttribute?
  uses := by
    intro text value rest found
    unfold readAttribute? at found
    split at found
    · simp at found
    · rename_i name notEmpty
      have short := length_dropWhile_lt notEmpty
      simp only at found
      split at found
      · rename_i assigned remaining isAssigned
        have shorter := length_of_assignedValue? isAssigned
        simp only [Option.some.injEq, Prod.mk.injEq] at found
        rw [← found.2]
        omega
      · simp only [Option.some.injEq, Prod.mk.injEq] at found
        exact found.2 ▸ short

namespace Tag

/-- The name of a tag in lower case. -/
def name (tag : Tag) : Text :=
  lower tag.spelling

/-- The tag as it was written. -/
def raw (tag : Tag) : Text :=
  (if tag.closing then "</" else "<") ++ tag.spelling ++ tag.body ++ ">"

/-- The body of the tag ends with a slash, trailing blanks aside. -/
def selfClosing (tag : Tag) : Bool :=
  endsWith "/" (dropEndWhile isBlank tag.body)

/-- The attributes in the body of the tag, in order, duplicates included. -/
def attributes (tag : Tag) : List Attribute :=
  attributePattern.findAll tag.body

/-- A tag behind its opening bracket and slash. The name ends where a word ends,
so a name that runs into another word character starts no tag. -/
def readNamed? (closing : Bool) (text : Text) : Option (Tag × Text) :=
  let spelling := text.takeWhile isAsciiAlphanumeric
  let afterName := text.dropWhile isAsciiAlphanumeric
  if (spelling.head?.map isAsciiLetter).getD false &&
      !(afterName.head?.map isWord).getD false then
    match afterName.dropWhile isNoBracket with
    | '>' :: rest => some (⟨closing, spelling, afterName.takeWhile isNoBracket⟩, rest)
    | _ => none
  else
    none

/-- A tag at the beginning of a text and what follows it. -/
def read? : Text → Option (Tag × Text)
  | '<' :: '/' :: rest => readNamed? true rest
  | '<' :: rest => readNamed? false rest
  | _ => none

theorem length_of_readNamed?
    {closing : Bool}
    {text rest : Text}
    {tag : Tag}
    (found : readNamed? closing text = some (tag, rest)) :
    rest.length < text.length := by
  unfold readNamed? at found
  have shortName := length_dropWhile_le isAsciiAlphanumeric text
  have shortBody := length_dropWhile_le isNoBracket (text.dropWhile isAsciiAlphanumeric)
  simp only at found
  split at found
  · split at found
    · rename_i remaining isRest
      rw [isRest] at shortBody
      simp only [Option.some.injEq, Prod.mk.injEq] at found
      rw [← found.2]
      simp only [List.length_cons] at shortBody
      omega
    · simp at found
  · simp at found

/-- Recognises one tag. -/
def pattern : Pattern Tag where
  read? := read?
  uses := by
    intro text tag rest found
    unfold read? at found
    split at found
    · have short := length_of_readNamed? found
      simp only [List.length_cons]
      omega
    · have short := length_of_readNamed? found
      simp only [List.length_cons]
      omega
    · simp at found

end Tag

namespace Segment

/-- The segment as it was written. -/
def raw : Segment → Text
  | .text raw => raw
  | .tag element => element.raw

/-- The tag of a segment that is one. -/
def tag? : Segment → Option Tag
  | .text _ => none
  | .tag element => some element

/-- Joins the characters between tags into runs of text. -/
def ofPieces : List (Piece Tag) → List Segment
  | [] => []
  | .found element :: rest => .tag element :: ofPieces rest
  | .plain char :: rest =>
      match ofPieces rest with
      | .text raw :: others => .text (char :: raw) :: others
      | others => .text [char] :: others

end Segment

/-- The segments of a text, in order. -/
def segments (text : Text) : List Segment :=
  Segment.ofPieces (Tag.pattern.scan text)

end EmailComposer.Markup
