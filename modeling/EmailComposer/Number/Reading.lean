import EmailComposer.Number.Binary64
import EmailComposer.Text.Quoted

namespace EmailComposer.Number

/-!
# Numbers read from text

Three readers. Settings hold integers in the digits of any script. Fields of a
block hold integers and floating-point numbers in ASCII digits, with underscores
between digits, leading zeros and, for integers, a fraction of zeros let through.
-/

open EmailComposer.Text

/-- The number that ASCII digits stand for. -/
def ofDigits (digits : Text) : Nat :=
  digits.foldl (fun value char => value * 10 + (char.toNat - 48)) 0

/-- More digits than this are not read as an integer. -/
def digitLimit : Nat := 4300

/-- A sign at the beginning of a text: whether it is a minus, and what follows. -/
def splitSign : Text → Bool × Text
  | '-' :: rest => (true, rest)
  | '+' :: rest => (false, rest)
  | text => (false, text)

/-- The digits of a text in which single underscores may stand between digits. -/
def digitValues? : Text → Option (List Nat)
  | [] => none
  | [last] => (digitValue? last).map fun value => [value]
  | first :: '_' :: rest =>
      match digitValue? first, digitValues? rest with
      | some value, some values => some (value :: values)
      | _, _ => none
  | first :: rest =>
      match digitValue? first, digitValues? rest with
      | some value, some values => some (value :: values)
      | _, _ => none

/-- How reading an integer from a setting fails. -/
inductive IntegerError where
  | invalid (text : Text)
  | tooLong (digits : Nat)
  deriving Repr, DecidableEq

namespace IntegerError

/-- The length to which a quoted text is cut in a message. -/
def quotedLength : Nat := 200

/-- The wording of a failure. -/
def message : IntegerError → Text
  | .invalid text =>
      "invalid literal for int() with base 10: " ++ (quoted text).take quotedLength
  | .tooLong digits =>
      "Exceeds the limit (4300 digits) for integer string conversion: value has " ++
        ofNat digits ++
        " digits; use sys.set_int_max_str_digits() to increase the limit"

end IntegerError

/-- A text without the white space around it. -/
def trim (text : Text) : Text :=
  dropEndWhile isWhiteSpace (text.dropWhile isWhiteSpace)

/-- An integer in a setting, white space around it aside. -/
def settingInt (text : Text) : Except IntegerError Int :=
  let (negative, digits) := splitSign (trim text)
  match digitValues? digits with
  | none => .error (.invalid text)
  | some values =>
      if digitLimit < values.length then
        .error (.tooLong values.length)
      else
        .ok (Binary64.signed negative (values.foldl (fun value digit => value * 10 + digit) 0))

/-- The text has single underscores, with something before and behind them. -/
def hasSoundUnderscores (text : Text) : Bool :=
  text.head? != some '_' && text.getLast? != some '_' && !includes "__" text

/-- How reading an integer from a field fails. -/
inductive FieldIntError where
  | malformed
  | tooLong
  deriving Repr, DecidableEq

/-- An integer in its plain form: an optional minus and digits without a leading
zero. -/
def plainInt (text : Text) : Except FieldIntError Int :=
  let (negative, digits) : Bool × Text :=
    match text with
    | '-' :: rest => (true, rest)
    | _ => (false, text)
  if digits.isEmpty || !digits.all isAsciiDigit ||
      (digits.head? == some '0' && digits != "0") then
    .error .malformed
  else if digitLimit < digits.length then
    .error .tooLong
  else
    .ok (Binary64.signed negative (ofDigits digits))

/-- A number without its leading zeros, among which underscores are skipped; one
zero stays where no other digit follows it. -/
def dropLeadingZeros (text : Text) : Option Text :=
  match text with
  | '0' :: rest =>
      let skipped := rest.takeWhile fun char => char == '0' || char == '_'
      match rest.dropWhile fun char => char == '0' || char == '_' with
      | [] => some [(skipped.getLast?).getD '0']
      | '.' :: fraction => some ((skipped.getLast?).getD '0' :: '.' :: fraction)
      | next :: others => if isAsciiDigit next then some (next :: others) else none
  | first :: _ => if isAsciiDigit first then some text else none
  | [] => none

/-- A number without a fraction that has zeros and nothing else. -/
def dropZeroFraction (text : Text) : Text :=
  match cut '.' text with
  | (whole, some fraction) =>
      if !fraction.isEmpty && fraction.all (· == '0') then
        whole
      else
        text
  | (_, none) => text

/-- An integer without a sign, in the plain form that a written form of it stands for. -/
def cleanDigits (text : Text) : Option Text :=
  (dropLeadingZeros text).map fun number =>
    let whole := dropZeroFraction number
    if hasSoundUnderscores whole then
      whole.filter (· != '_')
    else
      whole

/-- An integer in the plain form that a written form of it stands for. -/
def cleanInt : Text → Option Text
  | '+' :: rest => cleanDigits rest
  | '-' :: rest => (cleanDigits rest).map fun digits => '-' :: digits
  | text => cleanDigits text

/-- An integer in a field. -/
def fieldInt (text : Text) : Except FieldIntError Int :=
  let trimmed := trim text
  match plainInt trimmed with
  | .ok value => .ok value
  | .error .tooLong => .error .tooLong
  | .error .malformed =>
      match cleanInt trimmed with
      | some cleaned => plainInt cleaned
      | none => .error .malformed

/-- The digits of an exponent behind its mark, with an optional sign. -/
def exponent? (text : Text) : Option Int :=
  let (negative, digits) := splitSign text
  if digits.isEmpty || !digits.all isAsciiDigit then
    none
  else
    some (Binary64.signed negative (ofDigits digits))

/-- Decimal digits with an optional point and an optional exponent. -/
def unsignedFloat? (negative : Bool) (text : Text) : Option Binary64 :=
  let whole := text.takeWhile isAsciiDigit
  let rest := text.dropWhile isAsciiDigit
  let (fraction, rest) : Text × Text :=
    match rest with
    | '.' :: others => (others.takeWhile isAsciiDigit, others.dropWhile isAsciiDigit)
    | _ => ([], rest)
  let exponent : Option Int :=
    match rest with
    | [] => some 0
    | mark :: others => if mark == 'e' || mark == 'E' then exponent? others else none
  if whole.isEmpty && fraction.isEmpty then
    none
  else
    exponent.map fun power =>
      Binary64.ofDecimal negative (ofDigits (whole ++ fraction)) (power - fraction.length)

/-- A floating-point number without underscores or blanks around it; infinite
numbers and what is no number are written in words, in any letter case. -/
def plainFloat? (text : Text) : Option Binary64 :=
  let (negative, number) := splitSign text
  let word := number.map lowerAscii
  if word = "inf" || word = "infinity" then
    some (Binary64.infinity negative)
  else if word = "nan" then
    some Binary64.notANumber
  else
    unsignedFloat? negative number

/-- A floating-point number in a field. -/
def fieldFloat? (text : Text) : Option Binary64 :=
  match plainFloat? (trim text) with
  | some number => some number
  | none =>
      if text.contains '_' && hasSoundUnderscores text then
        plainFloat? (text.filter (· != '_'))
      else
        none

end EmailComposer.Number
