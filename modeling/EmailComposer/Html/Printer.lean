import EmailComposer.Html.Tree
import EmailComposer.Markup.Entity

namespace EmailComposer.Html

/-!
# Printed pages

The text of a page tree. Void elements have no end tag, and a value that holds a
double quote stands between single ones. What a URL may not hold is written in
percent escapes.
-/

open EmailComposer.Text
open EmailComposer.Markup

/-- The characters that are written as entities, inside and outside of attributes. -/
def textTable : EscapeTable
  | '&' => some "&amp;"
  | '<' => some "&lt;"
  | '>' => some "&gt;"
  | _ => none

/-- Attributes whose mere presence counts. -/
def presenceAttributes : List Text :=
  ["checked", "compact", "declare", "defer", "disabled", "ismap", "multiple", "nohref",
    "noresize", "noshade", "nowrap", "readonly", "selected"]

/-- The value of an attribute of an element is a URL. -/
def holdsUrl (element attributeName : Text) : Bool :=
  let names : List Text := ["href", "action", "src"]
  attributeName ∈ names || (element = "a" && attributeName = "name")

/-- A byte in a percent escape. -/
def percentEscape (byte : UInt8) : Text :=
  '%' :: (hexadecimal 2 byte.toNat).map Char.toUpper

/-- A character of a URL; a blank, a control character and one beyond ASCII are
escaped. -/
def urlChar (char : Char) : Text :=
  if 0x20 < char.toNat && char.toNat < 0x7f then
    [char]
  else
    (String.utf8EncodeChar char).flatMap percentEscape

/-- A blank that may stand in front of a URL. -/
def isUrlBlank (char : Char) : Bool :=
  char ∈ [' ', '\t', '\n', '\r']

/-- Where a value of an attribute is copied as it is: nowhere, inside of a template
expression, or inside of a directive to a server, of which the last hyphens are
counted. -/
inductive Copying where
  | none
  | expression
  | directive (hyphens : Nat)
  deriving Repr, DecidableEq

/-- A template expression begins: an ampersand and a brace that is closed. -/
def opensExpression (first : Char) (rest : Text) : Bool :=
  first == '&' && rest.head? == some '\x7b' && rest.contains '\x7d'

/-- A directive begins: a comment that is closed. -/
def opensDirective (first : Char) (rest : Text) : Bool :=
  first == '<' && startsWith "!--" rest && includes "-->" rest

/-- Where copying goes on behind a character. -/
def Copying.step (copying : Copying) (char : Char) : Copying :=
  match copying with
  | .none => .none
  | .expression => if char == '\x7d' then .none else .expression
  | .directive hyphens =>
      if char == '-' then
        .directive (hyphens + 1)
      else if char == '>' && 2 ≤ hyphens then
        .none
      else
        .directive 0

/-- The value of an attribute with its entities. Template expressions and directives are
left as they are. -/
def escapeValue (copying : Copying) : Text → Text
  | [] => []
  | first :: rest =>
      if copying ≠ .none then
        first :: escapeValue (copying.step first) rest
      else if opensExpression first rest then
        first :: escapeValue .expression rest
      else if opensDirective first rest then
        first :: escapeValue (.directive 0) rest
      else
        escapeWith textTable [first] ++ escapeValue .none rest

/-- The value of an attribute with its entities and escapes. -/
def encodedValue (element : Text) (name value : Text) : Text :=
  let encoded := escapeValue .none value
  if holdsUrl element name then
    (encoded.dropWhile isUrlBlank).flatMap urlChar
  else
    encoded

/-- A double quote inside double quotes. -/
def quoteChar (char : Char) : Text :=
  if char == '"' then
    "&quot;"
  else
    [char]

/-- A value between quotes. -/
def quotedValue (value : Text) : Text :=
  if value.contains '"' then
    if value.contains '\x27' then
      "\"" ++ value.flatMap quoteChar ++ "\""
    else
      "'" ++ value ++ "'"
  else
    "\"" ++ value ++ "\""

/-- An attribute with the space before it. -/
def printAttribute (element : Text) (entry : Attribute) : Text :=
  match entry.value with
  | none => " " ++ entry.name
  | some value =>
      if entry.name ∈ presenceAttributes then
        " " ++ entry.name
      else
        " " ++ entry.name ++ "=" ++ quotedValue (encodedValue element entry.name value)

/-- Elements whose text is written as it is. -/
def isVerbatim (name : Text) : Bool :=
  name = "script" || name = "style"

/-- An element is written without its end tag. -/
def lacksEndTag (name : Text) (children : List Node) : Bool :=
  isVoid name || (name = "li" && children.isEmpty)

mutual

/-- The text of a part of an element. -/
def Node.print (verbatim : Bool) : Node → Text
  | .text content => if verbatim then content else escapeWith textTable content
  | .comment content => "<!--" ++ content ++ "-->"
  | .element name attributes children =>
      let start := "<" ++ name ++ attributes.flatMap (printAttribute name) ++ ">"
      if lacksEndTag name children then
        start
      else
        start ++ printAll (isVerbatim name) children ++ "</" ++ name ++ ">"

/-- The text of several parts of an element. -/
def printAll (verbatim : Bool) : List Node → Text
  | [] => []
  | first :: rest => first.print verbatim ++ printAll verbatim rest

end

end EmailComposer.Html
