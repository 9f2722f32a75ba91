import EmailComposer.Style.Quantity
import EmailComposer.Style.Token

namespace EmailComposer.Style

/-!
# Values in normal form

A value is a row of terms, between which commas and slashes may stand. It is brought
into one form: one space between terms, one behind a comma and none around a slash,
double quotes around strings, quotes around URLs only where they are needed, short
colors where they can be shortened and quantities in their normal form. The arguments of
old filters may be anything and keep their form.
-/

open EmailComposer.Text

/-- Why a value has no normal form. A malformed value spoils its declaration, and an
unbounded number the whole style. -/
inductive ValueFault where
  | malformed
  | unbounded
  deriving Repr, DecidableEq

/-- A part of a value: a term as it is printed, or what stands between terms. -/
inductive Part where
  | term (text : Text)
  | comma
  | slash
  deriving Repr, DecidableEq

/-- A color whose digits come in equal pairs, with one digit for each pair. -/
def shortColor : Text → Text
  | ['#', a, b, c, d, e, f] =>
      if a == b && c == d && e == f then
        ['#', a, c, e]
      else
        ['#', a, b, c, d, e, f]
  | word => word

/-- Hexadecimal digits that make a color. -/
def isColorName (name : Text) : Bool :=
  (name.length == 3 || name.length == 6) && name.all isHexDigit

/-- A character inside double quotes. -/
def quotedChar (char : Char) : Text :=
  match char with
  | '\n' => "\\a "
  | '\r' => "\\d "
  | '\x0c' => "\\c "
  | '"' => "\\\""
  | _ => [char]

/-- A string in double quotes. -/
def printString (content : Text) : Text :=
  "\"" ++ content.flatMap quotedChar ++ "\""

/-- A character of a URL that stands in quotes. -/
def needsQuotes (char : Char) : Bool :=
  isWhiteSpace char || char ∈ ['(', ')', ';', ',', '\x27', '"']

/-- A URL, in quotes if it needs them. -/
def printUrl (address : Text) : Text :=
  if address.any needsQuotes then
    "url(" ++ printString address ++ ")"
  else
    "url(" ++ address ++ ")"

/-- Text without a space at its end. -/
def dropSpace (text : Text) : Text :=
  dropEndWhile (· == ' ') text

/-- A text with one more part of a value behind it. -/
def appendPart (text : Text) : Part → Text
  | .term term => text ++ term ++ " "
  | .comma => dropSpace text ++ ", "
  | .slash => dropSpace text ++ "/"

/-- The parts of a value in a row. -/
def printParts (parts : List Part) : Text :=
  dropSpace (parts.foldl appendPart [])

/-- Functions that give a color, with the number of their arguments. -/
def colorFunctions : List (Text × Nat) :=
  [("rgb", 3), ("rgba", 4), ("hsl", 3), ("hsla", 4)]

/-- The function that computes a quantity. -/
def computation : Text :=
  "calc"

/-- The number of arguments that commas separate. -/
def argumentCount (parts : List Part) : Nat :=
  (parts.filter (· = .comma)).length + 1

/-- A function has the arguments that it needs. -/
def hasArguments (name : Text) (parts : List Part) : Bool :=
  match colorFunctions.lookup name with
  | none => true
  | some count => argumentCount parts = count && parts.length = 2 * count - 1

/-- The mark of an arithmetic operation. -/
def isOperation (char : Char) : Bool :=
  char ∈ ['+', '-', '*', '/']

/-- What the parts of a value stand in: the value itself, the arguments of a function, or
a computation. -/
inductive Setting where
  | value
  | arguments
  | computation
  deriving Repr, DecidableEq

namespace Setting

/-- The setting of the arguments of a function. -/
def ofFunction (name : Text) : Setting :=
  if name = Style.computation then
    .computation
  else
    .arguments

end Setting

/-- Functions of old filters, whose arguments may be anything. -/
def filterFunctions : List Text :=
  ["alpha", "blur", "chroma", "dropshadow", "expression", "fliph", "flipv", "glow", "gray",
    "invert", "mask", "shadow", "wave", "xray"]

/-- The text of a token among arguments that may be anything. -/
def looseText : Token → Text
  | .blank => " "
  | .word name => name
  | .hash name => shortColor ('#' :: name)
  | .quantity spelling => ((Quantity.read spelling).print?).getD spelling
  | .string content => printString content
  | .url address => printUrl address
  | .function name => name ++ "("
  | .keyword name => '@' :: name
  | .comment _ => []
  | .broken => []
  | .mark char => [char]

/-- The text of arguments that may be anything, up to the closing parenthesis of their
function, and what follows it. `depth` counts the functions inside. -/
def readLoose? (depth : Nat) : List Token → Option (Text × List Token)
  | [] => none
  | token :: rest =>
      match depth, token with
      | 0, .mark ')' => some ([], rest)
      | deeper + 1, .mark ')' => (readLoose? deeper rest).map (prepend token)
      | _, .function _ => (readLoose? (depth + 1) rest).map (prepend token)
      | _, _ => (readLoose? depth rest).map (prepend token)
where
  /-- What is read with a token in front of it. -/
  prepend (token : Token) (found : Text × List Token) : Text × List Token :=
    (looseText token ++ found.1, found.2)

/-- The term of an old filter behind its opening parenthesis, and what follows it. -/
def readFilter? (name : Text) (tokens : List Token) : Option (Text × List Token) :=
  if name ∈ filterFunctions then
    (readLoose? 0 tokens).map fun (inner, rest) => (name ++ "(" ++ inner ++ ")", rest)
  else
    none

/-- A term that is no function. -/
def simpleTerm? : Token → Except ValueFault Text
  | .word name => .ok name
  | .string content => .ok (printString content)
  | .url address => .ok (printUrl address)
  | .hash name =>
      if isColorName name then
        .ok (shortColor ('#' :: name))
      else
        .error .malformed
  | .quantity spelling =>
      match (Quantity.read spelling).print? with
      | some text => .ok text
      | none => .error .unbounded
  | _ => .error .malformed

/-- Reads the parts of a value up to its end, or up to the closing parenthesis of a
function. `pending` says that a term has to follow; `fuel` bounds the number of steps,
each of which uses a token. The parts come in reverse order, with what follows them. -/
def partsFrom
    (setting : Setting)
    (parts : List Part)
    (pending : Bool) : Nat → List Token → Except ValueFault (List Part × List Token)
  | 0, _ => .error .malformed
  | _ + 1, [] =>
      if setting = .value && !pending then
        .ok (parts, [])
      else
        .error .malformed
  | fuel + 1, .blank :: rest => partsFrom setting parts pending fuel rest
  | fuel + 1, .comment content :: rest =>
      partsFrom setting (.term ("/*" ++ content ++ "*/") :: parts) pending fuel rest
  | fuel + 1, .mark char :: rest =>
      if char == ')' then
        if setting ≠ .value && (parts.isEmpty || !pending) then
          .ok (parts, rest)
        else
          .error .malformed
      else if pending then
        .error .malformed
      else if setting = .computation then
        if isOperation char then
          partsFrom setting (.term [char] :: parts) true fuel rest
        else
          .error .malformed
      else if char == ',' then
        partsFrom setting (.comma :: parts) true fuel rest
      else if char == '/' && setting = .value then
        partsFrom setting (.slash :: parts) true fuel rest
      else
        .error .malformed
  | fuel + 1, .function spelling :: rest =>
      let name := plainName spelling
      match partsFrom (Setting.ofFunction name) [] true fuel rest with
      | .error fault =>
          match readFilter? name rest with
          | some (text, remaining) => partsFrom setting (.term text :: parts) false fuel remaining
          | none => .error fault
      | .ok (inner, remaining) =>
          if hasArguments name inner then
            let text := name ++ "(" ++ printParts inner.reverse ++ ")"
            partsFrom setting (.term text :: parts) false fuel remaining
          else
            .error .malformed
  | fuel + 1, token :: rest =>
      match simpleTerm? token with
      | .ok text => partsFrom setting (.term text :: parts) false fuel rest
      | .error fault => .error fault

/-- A value in normal form. -/
def printValue? (value : List Token) : Except ValueFault Text :=
  (partsFrom .value [] true (value.length + 1) value).map fun found =>
    printParts found.1.reverse

end EmailComposer.Style
