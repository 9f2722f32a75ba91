import EmailComposer.Text.CharClass
import EmailComposer.Text.Pattern

namespace EmailComposer.Markup

/-!
# Entities

Characters with a meaning in markup are written as entities. Which characters
those are depends on where the text goes, so an escape table is a value; the
tables of the library and the decoder of the common entities stand here.
-/

/-- Which characters are written as an entity, and which entity that is. -/
abbrev EscapeTable := Char → Option Text

/-- The entity a table gives to a character, or the character itself. -/
def escapeChar (table : EscapeTable) (char : Char) : Text :=
  (table char).getD [char]

/-- The text with every character of the table written as its entity. -/
def escapeWith (table : EscapeTable) (text : Text) : Text :=
  text.flatMap (escapeChar table)

/-- The table for content: nothing that could open a tag, end an attribute value
or close an element stays as it is. -/
def contentTable : EscapeTable
  | '&' => some "&amp;"
  | '<' => some "&lt;"
  | '>' => some "&gt;"
  | '"' => some "&quot;"
  | '\x27' => some "&#39;"
  | '/' => some "&#x2F;"
  | _ => none

/-- The table for the specification inside a formatting token and for the URLs of
rendered blocks. -/
def specTable : EscapeTable
  | '&' => some "&amp;"
  | '<' => some "&lt;"
  | '>' => some "&gt;"
  | '"' => some "&quot;"
  | '\x27' => some "&#x27;"
  | _ => none

/-- The table for attribute values in the frame of an email. -/
def attributeTable : EscapeTable
  | '&' => some "&amp;"
  | '<' => some "&lt;"
  | '>' => some "&gt;"
  | '"' => some "&#34;"
  | '\x27' => some "&#39;"
  | _ => none

/-- Content text with every unsafe character written as an entity. -/
def escape (text : Text) : Text :=
  escapeWith contentTable text

/-- The entities that plain text is decoded from, by what stands between the
ampersand and the semicolon. -/
def commonEntity? (name : Text) : Option Text :=
  if name = "amp" then
    some "&"
  else if name = "lt" then
    some "<"
  else if name = "gt" then
    some ">"
  else if name = "quot" then
    some "\""
  else if name = "#39" then
    some ['\x27']
  else if name = "nbsp" then
    some " "
  else
    none

end EmailComposer.Markup
