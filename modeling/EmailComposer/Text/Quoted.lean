import EmailComposer.Text.CharClass

namespace EmailComposer.Text

/-!
# Quoted text

Messages show a text between quotes so that every character can be read off:
apostrophes around it, unless it holds an apostrophe and no double quote, and an
escape for the quote, the backslash and whatever cannot be printed.
-/

/-- The mark that encloses a quoted text. -/
def quoteMark (text : Text) : Char :=
  if text.contains '\x27' && !text.contains '"' then
    '"'
  else
    '\x27'

/-- A character inside a quoted text. -/
def quoteChar (mark char : Char) : Text :=
  if char == mark || char == '\\' then
    ['\\', char]
  else if char == '\n' then
    "\\n"
  else if char == '\r' then
    "\\r"
  else if char == '\t' then
    "\\t"
  else if isPrintable char then
    [char]
  else if char.toNat < 0x100 then
    "\\x" ++ hexadecimal 2 char.toNat
  else if char.toNat < 0x10000 then
    "\\u" ++ hexadecimal 4 char.toNat
  else
    "\\U" ++ hexadecimal 8 char.toNat

/-- The text between quotes, with escapes. -/
def quoted (text : Text) : Text :=
  let mark := quoteMark text
  [mark] ++ text.flatMap (quoteChar mark) ++ [mark]

end EmailComposer.Text
