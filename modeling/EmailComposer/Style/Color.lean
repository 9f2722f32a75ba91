import EmailComposer.Text.CharClass

namespace EmailComposer.Color

/-!
# Hexadecimal colors

A color is a number sign and three or six hexadecimal digits. Where a field of a
block is checked, one line break behind the color is let through.
-/

open EmailComposer.Text

/-- A number sign and three or six hexadecimal digits. -/
def isHex : Text → Bool
  | '#' :: digits => (digits.length == 3 || digits.length == 6) && digits.all isHexDigit
  | _ => false

/-- A hexadecimal color, or one with a line break behind it. -/
def isHexLine (text : Text) : Bool :=
  isHex text || (text.getLast? == some '\n' && isHex text.dropLast)

/-- The color that says that nothing is painted. -/
def transparent : Text :=
  "transparent"

end EmailComposer.Color
