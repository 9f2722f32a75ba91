import EmailComposer.Text.Basic
import EmailComposer.Text.PrintableTable
import EmailComposer.Text.WordTable

namespace EmailComposer.Text

/-!
# Classes of characters

Blanks, word characters, decimal digits and printable characters over all of
Unicode, and the ASCII classes that names and numbers are made of. A class splits
at 0x80: below it is a condition on the code point, above it a table.
-/

/-- The code point lies in one of the closed ranges. -/
def inRanges (ranges : Array (Nat × Nat)) (code : Nat) : Bool :=
  ranges.any fun range => range.1 ≤ code && code ≤ range.2

/-- White space as Unicode has it: a property of the standard. -/
def isWhiteSpace (char : Char) : Bool :=
  let code := char.toNat
  (9 ≤ code && code ≤ 13) || code == 32 || code == 0x85 || code == 0xa0 ||
    code == 0x1680 || (0x2000 ≤ code && code ≤ 0x200a) || code == 0x2028 ||
    code == 0x2029 || code == 0x202f || code == 0x205f || code == 0x3000

/-- A blank separates words: white space, or one of the four ASCII separators. -/
def isBlank (char : Char) : Bool :=
  isWhiteSpace char || (28 ≤ char.toNat && char.toNat ≤ 31)

/-- One of the letters `A` to `Z` and `a` to `z`. -/
def isAsciiLetter (char : Char) : Bool :=
  ('a' ≤ char && char ≤ 'z') || ('A' ≤ char && char ≤ 'Z')

/-- One of the digits `0` to `9`. -/
def isAsciiDigit (char : Char) : Bool :=
  '0' ≤ char && char ≤ '9'

/-- A letter or digit of ASCII. -/
def isAsciiAlphanumeric (char : Char) : Bool :=
  isAsciiLetter char || isAsciiDigit char

/-- A letter of ASCII in lower case; any other character as it is. -/
def lowerAscii (char : Char) : Char :=
  if 'A' ≤ char && char ≤ 'Z' then
    Char.ofNat (char.toNat + 32)
  else
    char

/-- A letter of ASCII in upper case; any other character as it is. -/
def upperAscii (char : Char) : Char :=
  if 'a' ≤ char && char ≤ 'z' then
    Char.ofNat (char.toNat - 32)
  else
    char

/-- A hexadecimal digit of ASCII, in either letter case. -/
def isHexDigit (char : Char) : Bool :=
  isAsciiDigit char || ('a' ≤ char && char ≤ 'f') || ('A' ≤ char && char ≤ 'F')

/-- The value of a hexadecimal digit. -/
def hexValue (char : Char) : Nat :=
  if isAsciiDigit char then
    char.toNat - 48
  else if 'a' ≤ char then
    char.toNat - 87
  else
    char.toNat - 55

/-- A word character: a letter, a numeral or the underscore. -/
def isWord (char : Char) : Bool :=
  if char.toNat < 0x80 then
    isAsciiAlphanumeric char || char == '_'
  else
    inRanges wordRanges char.toNat

/-- The decimal digits from 0x80 on; every range is made of blocks of ten that
begin with a zero. -/
def decimalRanges : Array (Nat × Nat) := #[
    (0x660, 0x669), (0x6f0, 0x6f9), (0x7c0, 0x7c9), (0x966, 0x96f), (0x9e6, 0x9ef),
    (0xa66, 0xa6f), (0xae6, 0xaef), (0xb66, 0xb6f), (0xbe6, 0xbef), (0xc66, 0xc6f),
    (0xce6, 0xcef), (0xd66, 0xd6f), (0xde6, 0xdef), (0xe50, 0xe59), (0xed0, 0xed9),
    (0xf20, 0xf29), (0x1040, 0x1049), (0x1090, 0x1099), (0x17e0, 0x17e9), (0x1810, 0x1819),
    (0x1946, 0x194f), (0x19d0, 0x19d9), (0x1a80, 0x1a89), (0x1a90, 0x1a99), (0x1b50, 0x1b59),
    (0x1bb0, 0x1bb9), (0x1c40, 0x1c49), (0x1c50, 0x1c59), (0xa620, 0xa629), (0xa8d0, 0xa8d9),
    (0xa900, 0xa909), (0xa9d0, 0xa9d9), (0xa9f0, 0xa9f9), (0xaa50, 0xaa59), (0xabf0, 0xabf9),
    (0xff10, 0xff19), (0x104a0, 0x104a9), (0x10d30, 0x10d39), (0x11066, 0x1106f),
    (0x110f0, 0x110f9), (0x11136, 0x1113f), (0x111d0, 0x111d9), (0x112f0, 0x112f9),
    (0x11450, 0x11459), (0x114d0, 0x114d9), (0x11650, 0x11659), (0x116c0, 0x116c9),
    (0x11730, 0x11739), (0x118e0, 0x118e9), (0x11950, 0x11959), (0x11c50, 0x11c59),
    (0x11d50, 0x11d59), (0x11da0, 0x11da9), (0x16a60, 0x16a69), (0x16ac0, 0x16ac9),
    (0x16b50, 0x16b59), (0x1d7ce, 0x1d7ff), (0x1e140, 0x1e149), (0x1e2f0, 0x1e2f9),
    (0x1e950, 0x1e959), (0x1fbf0, 0x1fbf9)]

/-- The value of a decimal digit of any script. -/
def digitValue? (char : Char) : Option Nat :=
  if isAsciiDigit char then
    some (char.toNat - 48)
  else
    (decimalRanges.find? fun range => range.1 ≤ char.toNat && char.toNat ≤ range.2).map
      fun range => (char.toNat - range.1) % 10

/-- A decimal digit of any script. -/
def isDecimalDigit (char : Char) : Bool :=
  (digitValue? char).isSome

/-- A character that is shown as itself when text is quoted. -/
def isPrintable (char : Char) : Bool :=
  if char.toNat < 0x80 then
    32 ≤ char.toNat && char.toNat < 127
  else
    !inRanges unprintableRanges char.toNat

/-- A text without the blanks at its beginning and end. -/
def strip (text : Text) : Text :=
  dropEndWhile isBlank (text.dropWhile isBlank)

/-- The text has nothing but blanks. -/
def isAllBlank (text : Text) : Bool :=
  text.all isBlank

end EmailComposer.Text
