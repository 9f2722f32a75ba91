import EmailComposer.Json.Value
import EmailComposer.Number.Reading

namespace EmailComposer.Json

/-!
# Reading JSON

A reader for JSON text. It also takes the names of the infinite numbers and of what
is no number. Where reading fails, the error names its cause and the place.

Characters beyond the first 65536 are escaped as a pair of units. A text cannot hold half
a pair, so the escape of one alone is read as the replacement character and the half that
it was is lost.
-/

open EmailComposer.Text
open EmailComposer.Number

/-- Why a text is no JSON. -/
inductive Cause where
  | expectingValue
  | expectingName
  | expectingColon
  | expectingComma
  | unterminatedString
  | controlCharacter
  | invalidEscape
  | invalidUnicodeEscape
  | extraData
  | byteOrderMark
  | integerTooLong (digits : Nat)
  deriving Repr, DecidableEq

namespace Cause

/-- The wording of a cause. -/
def message : Cause → Text
  | .expectingValue => "Expecting value"
  | .expectingName => "Expecting property name enclosed in double quotes"
  | .expectingColon => "Expecting ':' delimiter"
  | .expectingComma => "Expecting ',' delimiter"
  | .unterminatedString => "Unterminated string starting at"
  | .controlCharacter => "Invalid control character at"
  | .invalidEscape => "Invalid \\escape"
  | .invalidUnicodeEscape => "Invalid \\uXXXX escape"
  | .extraData => "Extra data"
  | .byteOrderMark => "Unexpected UTF-8 BOM (decode using utf-8-sig)"
  | .integerTooLong digits => (IntegerError.tooLong digits).message

end Cause

/-- A failure to read, with the number of characters that remained at its place. -/
structure Failure where
  cause : Cause
  remaining : Nat
  deriving Repr, DecidableEq

/-- Reading yields a result with the remaining text, or fails. -/
abbrev Result := Except Failure

/-- A failure in front of the remaining text. -/
def failBefore {Found : Type} (cause : Cause) (remaining : Text) : Result Found :=
  .error ⟨cause, remaining.length⟩

/-- A blank between JSON tokens. -/
def isJsonBlank (char : Char) : Bool :=
  char ∈ [' ', '\t', '\n', '\r']

/-- The text behind the blanks at its beginning. -/
def skipBlanks (text : Text) : Text :=
  text.dropWhile isJsonBlank

/-- The character of a one-letter escape. -/
def simpleEscape? : Char → Option Char
  | '"' => some '"'
  | '\\' => some '\\'
  | '/' => some '/'
  | 'b' => some '\x08'
  | 'f' => some '\x0c'
  | 'n' => some '\n'
  | 'r' => some '\r'
  | 't' => some '\t'
  | _ => none

/-- The number of four hexadecimal digits, if any text follows them. -/
def hexUnit? : Text → Option (Nat × Text)
  | first :: second :: third :: fourth :: following :: rest =>
      let digits := [first, second, third, fourth]
      if digits.all isHexDigit then
        some (digits.foldl (fun value char => value * 16 + hexValue char) 0, following :: rest)
      else
        none
  | _ => none

/-- The number is the first half of a pair of units. -/
def isHighUnit (unit : Nat) : Bool :=
  0xd800 ≤ unit && unit ≤ 0xdbff

/-- The number is the second half of a pair of units. -/
def isLowUnit (unit : Nat) : Bool :=
  0xdc00 ≤ unit && unit ≤ 0xdfff

/-- The character of one unit; half a pair alone is a replacement character. -/
def unitChar (unit : Nat) : Char :=
  if isHighUnit unit || isLowUnit unit then
    '\ufffd'
  else
    Char.ofNat unit

/-- The character of a numeric escape, by the text from its letter on. -/
def numericEscape (text : Text) : Result (Char × Text) :=
  match hexUnit? (text.drop 1) with
  | none => failBefore .invalidUnicodeEscape text
  | some (unit, rest) =>
      match rest with
      | '\\' :: 'u' :: second =>
          if isHighUnit unit && 4 < second.length then
            match hexUnit? second with
            | none => failBefore .invalidUnicodeEscape ('u' :: second)
            | some (low, remaining) =>
                if isLowUnit low then
                  .ok (Char.ofNat (0x10000 + (unit - 0xd800) * 0x400 + (low - 0xdc00)), remaining)
                else
                  .ok (unitChar unit, rest)
          else
            .ok (unitChar unit, rest)
      | _ => .ok (unitChar unit, rest)

/-- The characters of a string up to its closing quote. `opening` is the number of
characters that remained at the opening quote; `fuel` bounds the characters. -/
def stringFrom (opening : Nat) : Nat → Text → Result (Text × Text)
  | 0, _ => .error ⟨.unterminatedString, opening⟩
  | _ + 1, [] => .error ⟨.unterminatedString, opening⟩
  | _ + 1, '"' :: rest => .ok ([], rest)
  | fuel + 1, '\\' :: rest =>
      match rest with
      | [] => .error ⟨.unterminatedString, opening⟩
      | 'u' :: _ => do
          let (char, remaining) ← numericEscape rest
          let (chars, final) ← stringFrom opening fuel remaining
          return (char :: chars, final)
      | letter :: remaining =>
          match simpleEscape? letter with
          | none => failBefore .invalidEscape ('\\' :: rest)
          | some char => do
              let (chars, final) ← stringFrom opening fuel remaining
              return (char :: chars, final)
  | fuel + 1, char :: rest =>
      if char.toNat < 32 then
        failBefore .controlCharacter (char :: rest)
      else do
        let (chars, final) ← stringFrom opening fuel rest
        return (char :: chars, final)

/-- A string behind its opening quote. -/
def string (text : Text) : Result (Text × Text) :=
  stringFrom (text.length + 1) (text.length + 1) text

/-- The digits of a whole number: one zero, or digits that begin with no zero. -/
def wholeDigits (text : Text) : Text × Text :=
  match text with
  | '0' :: rest => (['0'], rest)
  | _ => (text.takeWhile isAsciiDigit, text.dropWhile isAsciiDigit)

/-- A point and the digits of a fraction behind it. -/
def fractionDigits (text : Text) : Option (Text × Text) :=
  match text with
  | '.' :: rest =>
      match rest.takeWhile isAsciiDigit with
      | [] => none
      | digits => some (digits, rest.dropWhile isAsciiDigit)
  | _ => none

/-- The exponent of a power of ten, behind its mark. -/
def exponentPart (text : Text) : Option (Int × Text) :=
  match text with
  | mark :: rest =>
      if mark == 'e' || mark == 'E' then
        let (negative, unsigned) := splitSign rest
        match unsigned.takeWhile isAsciiDigit with
        | [] => none
        | digits =>
            some (Binary64.signed negative (ofDigits digits), unsigned.dropWhile isAsciiDigit)
      else
        none
  | [] => none

/-- A number: an integer, or a floating-point number if it has a fraction or an
exponent. -/
def number (text : Text) : Result (Value × Text) :=
  let (negative, unsigned) : Bool × Text :=
    match text with
    | '-' :: rest => (true, rest)
    | _ => (false, text)
  let (whole, afterWhole) := wholeDigits unsigned
  if whole.isEmpty then
    failBefore .expectingValue text
  else
    let fraction := fractionDigits afterWhole
    let afterFraction := (fraction.map Prod.snd).getD afterWhole
    let exponent := exponentPart afterFraction
    let rest := (exponent.map Prod.snd).getD afterFraction
    if fraction.isNone && exponent.isNone then
      if digitLimit < whole.length then
        failBefore (.integerTooLong whole.length) text
      else
        .ok (.integer (Binary64.signed negative (ofDigits whole)), rest)
    else
      let digits := (fraction.map Prod.fst).getD []
      let power := (exponent.map Prod.fst).getD 0
      .ok (.float (Binary64.ofDecimal negative (ofDigits (whole ++ digits))
        (power - digits.length)), rest)

/-- The values that are written as words. -/
def words : List (Text × Value) :=
  [("null", .null), ("true", .boolean true), ("false", .boolean false),
    ("NaN", .float Binary64.notANumber), ("Infinity", .float (Binary64.infinity false)),
    ("-Infinity", .float (Binary64.infinity true))]

/-- A word or a number. -/
def scalar (text : Text) : Result (Value × Text) :=
  match words.findSome? fun word => (after? word.1 text).map fun rest => (word.2, rest) with
  | some found => .ok found
  | none => number text

mutual

/-- A value; `fuel` bounds the values inside it. -/
def valueFrom : Nat → Text → Result (Value × Text)
  | 0, text => failBefore .expectingValue text
  | fuel + 1, text =>
      match text with
      | [] => failBefore .expectingValue text
      | '"' :: rest => do
          let (chars, remaining) ← string rest
          return (.string chars, remaining)
      | '[' :: rest =>
          match skipBlanks rest with
          | ']' :: remaining => .ok (.array [], remaining)
          | elements => do
              let (values, remaining) ← elementsFrom fuel elements
              return (.array values, remaining)
      | '{' :: rest =>
          match skipBlanks rest with
          | '}' :: remaining => .ok (.object [], remaining)
          | members => do
              let (entries, remaining) ← membersFrom fuel [] members
              return (.object entries, remaining)
      | _ => scalar text

/-- The elements of an array up to its closing bracket. -/
def elementsFrom : Nat → Text → Result (List Value × Text)
  | 0, text => failBefore .expectingValue text
  | fuel + 1, text => do
      let (value, rest) ← valueFrom fuel text
      match skipBlanks rest with
      | ']' :: remaining => return ([value], remaining)
      | ',' :: remaining => do
          let (values, final) ← elementsFrom fuel (skipBlanks remaining)
          return (value :: values, final)
      | remaining => failBefore .expectingComma remaining

/-- The members of an object up to its closing brace, added to those before; of two
members with one key the later value stays, in the place of the earlier. -/
def membersFrom : Nat → Members → Text → Result (Members × Text)
  | 0, _, text => failBefore .expectingValue text
  | fuel + 1, members, text =>
      match text with
      | '"' :: rest => do
          let (key, afterKey) ← string rest
          match skipBlanks afterKey with
          | ':' :: afterColon => do
              let (value, afterValue) ← valueFrom fuel (skipBlanks afterColon)
              let members := members.put key value
              match skipBlanks afterValue with
              | '}' :: remaining => return (members, remaining)
              | ',' :: remaining => membersFrom fuel members (skipBlanks remaining)
              | remaining => failBefore .expectingComma remaining
          | remaining => failBefore .expectingColon remaining
      | _ => failBefore .expectingName text

end

/-- A failure to read a whole text, with its place: a line and a column from one on,
and the number of characters before it. -/
structure ReadError where
  cause : Cause
  line : Nat
  column : Nat
  offset : Nat
  deriving Repr, DecidableEq

namespace ReadError

/-- The place of a failure in a text. -/
def locate (text : Text) (failure : Failure) : ReadError :=
  let offset := text.length - failure.remaining
  let before := text.take offset
  { cause := failure.cause
    line := before.count '\n' + 1
    column := (before.reverse.takeWhile (· != '\n')).length + 1
    offset := offset }

/-- The message of an error: its cause, and where it is. A number that is too long
is reported without its place. -/
def message (error : ReadError) : Text :=
  match error.cause with
  | .integerTooLong _ => error.cause.message
  | cause =>
      cause.message ++ ": line " ++ ofNat error.line ++ " column " ++ ofNat error.column ++
        " (char " ++ ofNat error.offset ++ ")"

end ReadError

/-- The value that a whole text holds. -/
def read (text : Text) : Except ReadError Value :=
  let result : Except Failure Value :=
    if text.head? == some '\ufeff' then
      .error ⟨.byteOrderMark, text.length⟩
    else do
      let (value, rest) ← valueFrom (2 * text.length + 1) (skipBlanks text)
      match skipBlanks rest with
      | [] => return value
      | remaining => .error ⟨.extraData, remaining.length⟩
  result.mapError (ReadError.locate text)

end EmailComposer.Json
