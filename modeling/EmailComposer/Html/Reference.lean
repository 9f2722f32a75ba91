import EmailComposer.Html.NamedCharacter
import EmailComposer.Markup.Segment

namespace EmailComposer.Html

/-!
# Character references

A reference stands for characters by a number or by a name. A number needs no
semicolon behind it, and neither do the old names; where a letter, a digit or an
equals sign follows an old name inside an attribute, though, the text is no
reference. What is no reference stays as it is.
-/

open EmailComposer.Text
open EmailComposer.Markup

/-- Where a reference is read. -/
inductive Place where
  | text
  | attribute
  deriving Repr, DecidableEq

/-- The character in the place of one that cannot be. -/
def replacementChar : Char :=
  '\ufffd'

/-- The code points that old pages mean by the codes of control characters. -/
def controlCodes : List (Nat × Nat) :=
  [(0x80, 0x20ac), (0x82, 0x201a), (0x83, 0x0192), (0x84, 0x201e), (0x85, 0x2026),
    (0x86, 0x2020), (0x87, 0x2021), (0x88, 0x02c6), (0x89, 0x2030), (0x8a, 0x0160),
    (0x8b, 0x2039), (0x8c, 0x0152), (0x8e, 0x017d), (0x91, 0x2018), (0x92, 0x2019),
    (0x93, 0x201c), (0x94, 0x201d), (0x95, 0x2022), (0x96, 0x2013), (0x97, 0x2014),
    (0x98, 0x02dc), (0x99, 0x2122), (0x9a, 0x0161), (0x9b, 0x203a), (0x9c, 0x0153),
    (0x9e, 0x017e), (0x9f, 0x0178)]

/-- A number is the code point of a character. -/
def isCharCode (code : Nat) : Bool :=
  (0 < code && code < 0xd800) || (0xe000 ≤ code && code < 0x110000)

/-- The character that a number stands for. -/
def charOfCode (code : Nat) : Char :=
  if isCharCode code then
    match controlCodes.lookup code with
    | some meant => Char.ofNat meant
    | none => Char.ofNat code
  else
    replacementChar

/-- The value of digits of a base. -/
def digitsValue (base : Nat) (digits : Text) : Nat :=
  digits.foldl (fun value char => value * base + hexValue char) 0

/-- A text without a semicolon in front of it. -/
def dropSemicolon : Text → Text
  | ';' :: rest => rest
  | text => text

/-- The character whose number is written in digits at the beginning of a text, and what
follows; none without digits. -/
def readDigits? (isDigit : Char → Bool) (base : Nat) (text : Text) : Option (Text × Text) :=
  match text.takeWhile isDigit with
  | [] => none
  | digits =>
      some ([charOfCode (digitsValue base digits)], dropSemicolon (text.dropWhile isDigit))

/-- The character with a number at the beginning of a text, and what follows. -/
def readNumbered? (text : Text) : Option (Text × Text) :=
  match text with
  | 'x' :: rest => readDigits? isHexDigit 16 rest
  | 'X' :: rest => readDigits? isHexDigit 16 rest
  | _ => readDigits? isAsciiDigit 10 text

/-- The length of the longest old name, of at most some length, that a text begins
with. -/
def bareLength? (text : Text) : Nat → Option Nat
  | 0 => none
  | limit + 1 =>
      if isBareName (text.take (limit + 1)) then
        some (limit + 1)
      else
        bareLength? text limit

/-- A name is continued by what follows it. -/
def isContinued : Text → Bool
  | next :: _ => next == '=' || isAsciiAlphanumeric next
  | [] => false

/-- The characters of the old name at the beginning of a text, and what follows. -/
def readBare? (place : Place) (text : Text) : Option (Text × Text) :=
  match bareLength? text bareNameLimit with
  | none => none
  | some length =>
      if place = .attribute && isContinued (text.drop length) then
        none
      else
        (namedCodes? (text.take length)).map fun codes =>
          (codes.map Char.ofNat, text.drop length)

/-- The characters of the name at the beginning of a text, and what follows. -/
def readNamed? (place : Place) (text : Text) : Option (Text × Text) :=
  match text.dropWhile isAsciiAlphanumeric with
  | ';' :: rest =>
      match namedCodes? (text.takeWhile isAsciiAlphanumeric) with
      | some codes => some (codes.map Char.ofNat, rest)
      | none => readBare? place text
  | _ => readBare? place text

/-- The characters of the reference at the beginning of a text, and what follows. -/
def readReference? (place : Place) : Text → Option (Text × Text)
  | '&' :: '#' :: rest => readNumbered? rest
  | '&' :: rest => readNamed? place rest
  | _ => none

theorem length_dropSemicolon_le
    (text : Text) :
    (dropSemicolon text).length ≤ text.length := by
  unfold dropSemicolon
  split <;> simp

theorem length_of_readDigits?
    {isDigit : Char → Bool}
    {base : Nat}
    {text value rest : Text}
    (found : readDigits? isDigit base text = some (value, rest)) :
    rest.length ≤ text.length := by
  unfold readDigits? at found
  have short := length_dropWhile_le isDigit text
  have shorter := length_dropSemicolon_le (text.dropWhile isDigit)
  split at found
  · simp at found
  · simp only [Option.some.injEq, Prod.mk.injEq] at found
    rw [← found.2]
    omega

theorem length_of_readNumbered?
    {text value rest : Text}
    (found : readNumbered? text = some (value, rest)) :
    rest.length ≤ text.length := by
  unfold readNumbered? at found
  split at found
  · have short := length_of_readDigits? found
    simp only [List.length_cons]
    omega
  · have short := length_of_readDigits? found
    simp only [List.length_cons]
    omega
  · exact length_of_readDigits? found

theorem length_of_readBare?
    {place : Place}
    {text value rest : Text}
    (found : readBare? place text = some (value, rest)) :
    rest.length ≤ text.length := by
  unfold readBare? at found
  split at found
  · simp at found
  · rename_i length _
    split at found
    · simp at found
    · obtain ⟨codes, _, same⟩ := Option.map_eq_some_iff.mp found
      cases same
      simp

theorem length_of_readNamed?
    {place : Place}
    {text value rest : Text}
    (found : readNamed? place text = some (value, rest)) :
    rest.length ≤ text.length := by
  unfold readNamed? at found
  have short := length_dropWhile_le isAsciiAlphanumeric text
  split at found
  · rename_i remaining isRest
    rw [isRest] at short
    split at found
    · simp only [Option.some.injEq, Prod.mk.injEq] at found
      rw [← found.2]
      simp only [List.length_cons] at short
      omega
    · exact length_of_readBare? found
  · exact length_of_readBare? found

theorem length_of_readReference?
    {place : Place}
    {text value rest : Text}
    (found : readReference? place text = some (value, rest)) :
    rest.length < text.length := by
  unfold readReference? at found
  split at found
  · have short := length_of_readNumbered? found
    simp only [List.length_cons]
    omega
  · have short := length_of_readNamed? found
    simp only [List.length_cons]
    omega
  · simp at found

/-- Recognises one reference. -/
def referencePattern (place : Place) : Pattern Text where
  read? := readReference? place
  uses := length_of_readReference?

/-- The text with the characters that its references stand for. -/
def decode (place : Place) (text : Text) : Text :=
  (referencePattern place).replace id text

end EmailComposer.Html
