import EmailComposer.Html.Reference
import EmailComposer.Html.Tree

namespace EmailComposer.Html

/-!
# Tokens of a page

The text of a page is cut into texts, tags and comments. Everything has a reading:
what begins no tag is text, what would be a declaration or a processing instruction is
a comment, and a tag that the end of the page cuts off is left out. Behind the start
tags of some elements markup means nothing until their end tag.
-/

open EmailComposer.Text
open EmailComposer.Markup

/-- A part of the text of a page. -/
inductive Token where
  | text (content : Text)
  | opening (name : Text) (attributes : Attributes) (selfClosing : Bool)
  | closing (name : Text)
  | comment (content : Text)
  deriving Repr, DecidableEq

/-- The text of a page with line feeds for line breaks and without null characters. -/
def cleanInput (text : Text) : Text :=
  (unifyLineBreaks text).map fun char => if char == '\x00' then replacementChar else char

/-! ## Tags -/

/-- A blank inside a tag. -/
def isBlankInTag (char : Char) : Bool :=
  char ∈ [' ', '\t', '\n', '\r', '\x0c']

/-- A text without the blanks in front of it. -/
def skipBlanks (text : Text) : Text :=
  text.dropWhile isBlankInTag

/-- A character of the name of an element, behind its first letter. -/
def isNameChar (char : Char) : Bool :=
  !isBlankInTag char && char != '/' && char != '>'

/-- A character of the name of an attribute, behind its first one. -/
def isAttributeChar (char : Char) : Bool :=
  isNameChar char && char != '='

/-- A character of a value without quotes. -/
def isBareChar (char : Char) : Bool :=
  !isBlankInTag char && char != '>'

/-- The value of an attribute behind the equals sign, and what follows it. -/
def readValue : Text → Text × Text
  | '"' :: rest => (rest.takeWhile (· != '"'), (rest.dropWhile (· != '"')).drop 1)
  | '\x27' :: rest => (rest.takeWhile (· != '\x27'), (rest.dropWhile (· != '\x27')).drop 1)
  | text => (text.takeWhile isBareChar, text.dropWhile isBareChar)

/-- The attribute with a name of which the first character is known, and what follows
it. -/
def readAttribute (first : Char) (text : Text) : Attribute × Text :=
  let name := (first :: text.takeWhile isAttributeChar).map lowerAscii
  let rest := skipBlanks (text.dropWhile isAttributeChar)
  match rest with
  | '=' :: following =>
      let (value, remaining) := readValue (skipBlanks following)
      (⟨name, some (decode .attribute value)⟩, remaining)
  | _ => (⟨name, none⟩, rest)

/-- The attributes with one more, unless they have its name already. -/
def addAttribute (attributes : Attributes) (entry : Attribute) : Attributes :=
  if attributes.any fun earlier => earlier.name = entry.name then
    attributes
  else
    attributes ++ [entry]

/-- Reads attributes and the end of their tag: the attributes, whether the tag closes its
element, and what follows. A tag has no reading where the text ends before it. `fuel`
bounds the number of steps, each of which uses a character. -/
def attributesFrom? (attributes : Attributes) : Nat → Text → Option (Attributes × Bool × Text)
  | 0, _ => none
  | fuel + 1, text =>
      match skipBlanks text with
      | [] => none
      | '>' :: rest => some (attributes, false, rest)
      | '/' :: '>' :: rest => some (attributes, true, rest)
      | '/' :: rest => attributesFrom? attributes fuel rest
      | first :: rest =>
          let (entry, remaining) := readAttribute first rest
          attributesFrom? (addAttribute attributes entry) fuel remaining

/-- What is read where text is no text: a token, if there is one, and what follows. -/
abbrev Reading := Option Token × Text

/-- The start tag behind an opening bracket. -/
def readOpening (text : Text) : Reading :=
  let name := (text.takeWhile isNameChar).map lowerAscii
  let rest := text.dropWhile isNameChar
  match attributesFrom? [] (rest.length + 1) rest with
  | some (attributes, selfClosing, remaining) =>
      (some (.opening name attributes selfClosing), remaining)
  | none => (none, [])

/-- The end tag behind an opening bracket and a slash. -/
def readClosing (text : Text) : Reading :=
  let name := (text.takeWhile isNameChar).map lowerAscii
  let rest := text.dropWhile isNameChar
  match attributesFrom? [] (rest.length + 1) rest with
  | some (_, _, remaining) => (some (.closing name), remaining)
  | none => (none, [])

/-! ## Comments -/

/-- The content of a comment up to its end or the end of the text, and what follows. -/
def commentBody : Text → Text × Text
  | [] => ([], [])
  | '-' :: '-' :: '>' :: rest => ([], rest)
  | '-' :: '-' :: '!' :: '>' :: rest => ([], rest)
  | first :: rest =>
      let (content, remaining) := commentBody rest
      (first :: content, remaining)

/-- The comment behind its opening mark, which may close it at once. -/
def readComment : Text → Reading
  | '>' :: rest => (some (.comment []), rest)
  | '-' :: '>' :: rest => (some (.comment []), rest)
  | text =>
      let (content, rest) := commentBody text
      (some (.comment content), rest)

/-- What is no comment and is read as one, up to the next closing bracket. -/
def readBogus (text : Text) : Reading :=
  (some (.comment (text.takeWhile (· != '>'))), (text.dropWhile (· != '>')).drop 1)

/-- The word that makes a declaration the one of a document type. -/
def documentTypeWord : Text :=
  "doctype"

/-- What is read behind an opening bracket and an exclamation mark. -/
def readDeclaration (text : Text) : Reading :=
  if startsWith documentTypeWord (text.map lowerAscii) then
    (none, (text.dropWhile (· != '>')).drop 1)
  else
    match text with
    | '-' :: '-' :: rest => readComment rest
    | _ => readBogus text

/-- What is read at the beginning of a text, unless it is text. -/
def readMark? : Text → Option Reading
  | '<' :: '!' :: rest => some (readDeclaration rest)
  | '<' :: '?' :: rest => some (readBogus ('?' :: rest))
  | '<' :: '/' :: '>' :: rest => some (none, rest)
  | '<' :: '/' :: first :: rest =>
      if isAsciiLetter first then
        some (readClosing (first :: rest))
      else
        some (readBogus (first :: rest))
  | '<' :: first :: rest =>
      if isAsciiLetter first then
        some (readOpening (first :: rest))
      else
        none
  | _ => none

/-! ## Raw text -/

/-- How the content of an element is read that holds no markup. -/
inductive RawKind where
  | characters
  | verbatim
  | script
  | remainder
  deriving Repr, DecidableEq

/-- How the content of an element is read, if it holds no markup. -/
def rawKind? (name : Text) : Option RawKind :=
  let characters : List Text := ["title", "textarea"]
  let verbatim : List Text := ["style", "xmp", "iframe", "noembed", "noframes"]
  if name ∈ characters then
    some .characters
  else if name ∈ verbatim then
    some .verbatim
  else if name = "script" then
    some .script
  else if name = "plaintext" then
    some .remainder
  else
    none

/-- A name ends at the beginning of a text. -/
def endsName : Text → Bool
  | next :: _ => !isNameChar next
  | [] => false

/-- A text begins with a name, in any letter case, and not with a longer one. -/
def beginsWithName (name text : Text) : Bool :=
  (text.take name.length).map lowerAscii = name && endsName (text.drop name.length)

/-- A text begins with the end tag of an element. -/
def beginsWithEnd (name : Text) : Text → Bool
  | '<' :: '/' :: rest => beginsWithName name rest
  | _ => false

/-- The text in front of the end tag of an element, and the tag with what follows. -/
def splitAtEnd (name : Text) : Text → Text × Text
  | [] => ([], [])
  | first :: rest =>
      if beginsWithEnd name (first :: rest) then
        ([], first :: rest)
      else
        let (content, remaining) := splitAtEnd name rest
        (first :: content, remaining)

/-- Where a script is: outside of comments, inside of one, or in a script that is named
inside of one. -/
inductive ScriptState where
  | plain
  | comment
  | nested
  deriving Repr, DecidableEq

/-- The name of the script element. -/
def scriptName : Text :=
  "script"

/-- The state of a script behind the first character of a text. -/
def scriptStep (state : ScriptState) : Text → ScriptState
  | '<' :: '!' :: '-' :: '-' :: _ => if state = .plain then .comment else state
  | '-' :: '-' :: '>' :: _ => .plain
  | '<' :: '/' :: rest =>
      if state = .nested && beginsWithName scriptName rest then .comment else state
  | '<' :: rest =>
      if state = .comment && beginsWithName scriptName rest then .nested else state
  | _ => state

/-- The text in front of the end tag of a script, and the tag with what follows. An end
tag in a script that a comment names belongs to that script. -/
def splitAtScriptEnd (state : ScriptState) : Text → Text × Text
  | [] => ([], [])
  | first :: rest =>
      if state ≠ .nested && beginsWithEnd scriptName (first :: rest) then
        ([], first :: rest)
      else
        let (content, remaining) := splitAtScriptEnd (scriptStep state (first :: rest)) rest
        (first :: content, remaining)

/-- The content of an element without markup, and what follows it. -/
def readRaw (kind : RawKind) (name : Text) (text : Text) : Text × Text :=
  match kind with
  | .characters =>
      let (content, rest) := splitAtEnd name text
      (decode .text content, rest)
  | .verbatim => splitAtEnd name text
  | .script => splitAtScriptEnd .plain text
  | .remainder => (text, [])

/-! ## The tokens of a text -/

/-- A token for a text, unless the text is empty. -/
def textToken (content : Text) : List Token :=
  if content.isEmpty then
    []
  else
    [.text content]

/-- What follows a token: the text of an element without markup, and the rest. -/
def readBehind (token : Token) (text : Text) : Text × Text :=
  match token with
  | .opening name _ false =>
      match rawKind? name with
      | some kind => readRaw kind name text
      | none => ([], text)
  | _ => ([], text)

/-- The tokens of a text, with the characters since the last mark in reverse order;
`fuel` bounds the number of steps, each of which uses a character. -/
def tokensFrom (run : Text) : Nat → Text → List Token
  | 0, _ => textToken (decode .text run.reverse)
  | fuel + 1, text =>
      match readMark? text with
      | some (some token, rest) =>
          let (content, remaining) := readBehind token rest
          textToken (decode .text run.reverse) ++ [token] ++ textToken content ++
            tokensFrom [] fuel remaining
      | some (none, rest) =>
          textToken (decode .text run.reverse) ++ tokensFrom [] fuel rest
      | none =>
          match text with
          | [] => textToken (decode .text run.reverse)
          | first :: rest => tokensFrom (first :: run) fuel rest

/-- The tokens of a page. -/
def tokens (page : Text) : List Token :=
  let text := cleanInput page
  tokensFrom [] (text.length + 1) text

end EmailComposer.Html
