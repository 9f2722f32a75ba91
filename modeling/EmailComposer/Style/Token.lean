import EmailComposer.Style.Escape

namespace EmailComposer.Style

/-!
# Tokens of style declarations

Style text is cut into words, numbers with their units, strings, URLs, functions,
comments and single marks. A number is one in ASCII digits; letters, digits and all
characters beyond ASCII continue a word or a unit, and so do escapes.
-/

open EmailComposer.Text

/-- A part of style text. -/
inductive Token where
  | blank
  | word (name : Text)
  | hash (name : Text)
  | quantity (spelling : Text)
  | string (content : Text)
  | url (address : Text)
  | function (name : Text)
  | keyword (name : Text)
  | comment (content : Text)
  | broken
  | mark (char : Char)
  deriving Repr, DecidableEq

/-- A character that a word may begin with, hyphens aside. -/
def isWordStart (char : Char) : Bool :=
  isAsciiLetter char || char == '_' || 0x7f < char.toNat

/-- A character inside a word. -/
def isWordChar (char : Char) : Bool :=
  isWordStart char || isAsciiDigit char || char == '-'

/-- The first character of a name as it is written, and what follows. -/
def readNameChar? (text : Text) : Option (Text × Text) :=
  match readEscape? text with
  | some found => some found
  | none =>
      match text with
      | first :: rest =>
          if isWordChar first then
            some ([first], rest)
          else
            none
      | [] => none

/-- The characters of a name as they are written, and what follows; `fuel` bounds their
number. -/
def nameFrom : Nat → Text → Text × Text
  | 0, text => ([], text)
  | fuel + 1, text =>
      match readNameChar? text with
      | some (written, rest) =>
          let (name, remaining) := nameFrom fuel rest
          (written ++ name, remaining)
      | none => ([], text)

/-- The name at the beginning of a text, and what follows. -/
def readName (text : Text) : Text × Text :=
  let (written, rest) := nameFrom text.length text
  (resolveCodes written, rest)

/-- A word begins at the beginning of a text, hyphens aside. -/
def startsWord (text : Text) : Bool :=
  (readEscape? text).isSome ||
    match text with
    | first :: _ => isWordStart first
    | [] => false

/-- The word at the beginning of a text, with up to two hyphens in front. -/
def readWord? (text : Text) : Option (Text × Text) :=
  let hyphens := text.takeWhile (· == '-')
  if hyphens.length ≤ 2 && startsWord (text.drop hyphens.length) then
    some (readName text)
  else
    none

/-- The number without a sign at the beginning of a text. A point needs a digit behind
it. -/
def readUnsigned? (text : Text) : Option (Text × Text) :=
  let whole := text.takeWhile isAsciiDigit
  let rest := text.dropWhile isAsciiDigit
  let fraction : Text :=
    match rest with
    | '.' :: following => following.takeWhile isAsciiDigit
    | _ => []
  if !fraction.isEmpty then
    some (whole ++ '.' :: fraction, rest.drop (fraction.length + 1))
  else if !whole.isEmpty then
    some (whole, rest)
  else
    none

/-- The number at the beginning of a text. -/
def readNumber? : Text → Option (Text × Text)
  | '+' :: rest => (readUnsigned? rest).map fun found => ('+' :: found.1, found.2)
  | '-' :: rest => (readUnsigned? rest).map fun found => ('-' :: found.1, found.2)
  | text => readUnsigned? text

/-- The number with its unit at the beginning of a text. -/
def readQuantity? (text : Text) : Option (Text × Text) :=
  (readNumber? text).map fun (number, rest) =>
    match rest with
    | '%' :: remaining => (number ++ ['%'], remaining)
    | _ =>
        match readWord? rest with
        | some (unit, remaining) => (number ++ unit, remaining)
        | none => (number, rest)

/-- The content of a string behind its opening quote, and what follows; none if the line
ends first. A line end behind a backslash is left out, and so is the backslash before a
quote. -/
def stringBody? (quote : Char) : Text → Option (Text × Text)
  | [] => none
  | '\\' :: next :: rest =>
      (stringBody? quote rest).map fun (content, remaining) =>
        if isLineEnd next then
          (content, remaining)
        else if next == quote then
          (next :: content, remaining)
        else
          ('\\' :: next :: content, remaining)
  | first :: rest =>
      if first == quote then
        some ([], rest)
      else if isLineEnd first then
        none
      else
        (stringBody? quote rest).map fun (content, remaining) => (first :: content, remaining)

/-- A character of a URL without quotes. -/
def isUrlChar (char : Char) : Bool :=
  let excluded : List Char := ['"', '\x27', ')']
  char ∉ excluded && (char == '\t' || (0x20 < char.toNat && char.toNat != 0x7f))

/-- The address behind the opening parenthesis of a URL, and what follows; none without
the closing one. -/
def urlBody? (text : Text) : Option (Text × Text) :=
  let inner := text.dropWhile isBlankInStyle
  let found :=
    match inner with
    | '"' :: rest => stringBody? '"' rest
    | '\x27' :: rest => stringBody? '\x27' rest
    | _ => some (inner.takeWhile isUrlChar, inner.dropWhile isUrlChar)
  match found with
  | none => none
  | some (address, rest) =>
      match rest.dropWhile isBlankInStyle with
      | ')' :: remaining => some (address, remaining)
      | _ => none

/-- The content of a comment behind its opening mark, and what follows; none if it does
not end. -/
def commentBody? : Text → Option (Text × Text)
  | [] => none
  | '*' :: '/' :: rest => some ([], rest)
  | first :: rest =>
      (commentBody? rest).map fun (content, remaining) => (first :: content, remaining)

/-- The word that a URL begins with. -/
def urlWord : Text :=
  "url"

/-- The word, function or URL at the beginning of a text. -/
def readNamed? (text : Text) : Option (Token × Text) :=
  match readWord? text with
  | none => none
  | some (name, '(' :: rest) =>
      if plainName name = urlWord then
        match urlBody? rest with
        | some (address, remaining) => some (.url (resolveCodes address), remaining)
        | none => some (.function name, rest)
      else
        some (.function name, rest)
  | some (name, rest) => some (.word name, rest)

/-- The token of one character and of those that belong to it. -/
def readMark (first : Char) (rest : Text) : Token × Text :=
  if first == '"' || first == '\x27' then
    match stringBody? first rest with
    | some (content, remaining) => (.string content, remaining)
    | none => (.broken, rest.dropWhile fun char => !isLineEnd char)
  else if first == '@' then
    match readWord? rest with
    | some (name, remaining) => (.keyword name, remaining)
    | none => (.mark first, rest)
  else if first == '#' then
    match readName rest with
    | ([], _) => (.mark first, rest)
    | (name, remaining) => (.hash name, remaining)
  else
    match first, rest with
    | '/', '*' :: following =>
        match commentBody? following with
        | some (content, remaining) => (.comment content, remaining)
        | none => (.mark first, rest)
    | _, _ => (.mark first, rest)

/-- The first token of a text that begins with a character. -/
def readToken (first : Char) (rest : Text) : Token × Text :=
  if isBlankInStyle first then
    (.blank, rest.dropWhile isBlankInStyle)
  else
    match readNamed? (first :: rest) with
    | some found => found
    | none =>
        match readQuantity? (first :: rest) with
        | some (spelling, remaining) => (.quantity spelling, remaining)
        | none => readMark first rest

/-- The tokens of a text; `fuel` bounds their number. -/
def tokensFrom : Nat → Text → List Token
  | 0, _ => []
  | _, [] => []
  | fuel + 1, first :: rest =>
      let (token, remaining) := readToken first rest
      token :: tokensFrom fuel remaining

/-- The tokens of a text. -/
def tokens (text : Text) : List Token :=
  tokensFrom text.length text

end EmailComposer.Style
