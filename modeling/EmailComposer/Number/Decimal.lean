import EmailComposer.Number.Binary64
import EmailComposer.Text.Basic

namespace EmailComposer.Binary64

/-!
# Decimal text of floating-point numbers

A number is printed from decimal digits and an exponent of ten. The digits are
either a fixed count of significant ones or the fewest that read back as the same
number; which exponents are written without a power of ten, and whether a whole
number keeps a fraction, is up to the notation.
-/

open EmailComposer.Text

/-- Decimal digits of a positive number: `digits` times ten to the `exponent`. -/
structure Digits where
  digits : Nat
  exponent : Int
  deriving Repr, DecidableEq

namespace Digits

/-- The exponent of the first digit. -/
def leading (value : Digits) : Int :=
  value.exponent + digitCount value.digits - 1

/-- The same number without the zeros at the end of its digits; `fuel` bounds how
many there can be. -/
def trimFrom (value : Digits) : Nat → Digits
  | 0 => value
  | fuel + 1 =>
      if value.digits % 10 = 0 && value.digits != 0 then
        trimFrom ⟨value.digits / 10, value.exponent + 1⟩ fuel
      else
        value

/-- The same number without the zeros at the end of its digits. -/
def trim (value : Digits) : Digits :=
  value.trimFrom (digitCount value.digits)

end Digits

/-- The least number of places by which a ratio below one is shifted to reach one;
`fuel` bounds the search. -/
def placesToOne (numerator denominator : Nat) : Nat → Nat
  | 0 => 0
  | fuel + 1 =>
      if numerator < denominator then
        placesToOne (numerator * 10) denominator fuel + 1
      else
        0

/-- The exponent of the first decimal digit of a positive ratio of finite numbers. -/
def leadingExponent (numerator denominator : Nat) : Int :=
  if denominator ≤ numerator then
    (digitCount (numerator / denominator) : Int) - 1
  else
    -(placesToOne numerator denominator 400 : Int)

/-- A ratio in units of ten to the `exponent`, as a ratio. -/
def inUnits (numerator denominator : Nat) (exponent : Int) : Nat × Nat :=
  let (up, down) := ratioPow 10 exponent
  (numerator * down, denominator * up)

/-- A positive ratio rounded to a count of significant digits. -/
def significant (count numerator denominator : Nat) : Digits :=
  let exponent := leadingExponent numerator denominator - ((count : Int) - 1)
  let (scaled, unit) := inUnits numerator denominator exponent
  ⟨roundDiv scaled unit, exponent⟩

/-- The first rounding, from `count` significant digits on, that reads back as the
number; `fuel` bounds the counts tried. -/
def shortestFrom (mantissa : Nat) (exponent : Int) (count : Nat) : Nat → Digits
  | 0 =>
      let (numerator, denominator) := ratio mantissa exponent
      significant count numerator denominator
  | fuel + 1 =>
      let (numerator, denominator) := ratio mantissa exponent
      let digits := significant count numerator denominator
      if ofDecimal false digits.digits digits.exponent = ofRatio false numerator denominator then
        digits
      else
        shortestFrom mantissa exponent (count + 1) fuel

/-- The fewest significant digits that read back as the number. -/
def shortest (mantissa : Nat) (exponent : Int) : Digits :=
  shortestFrom mantissa exponent 1 16

/-- How a number is laid out: the first digits whose exponent lies in a range are
written without a power of ten, and a whole number may keep a zero fraction. -/
structure Layout where
  leastPositional : Int
  positionalBound : Int
  keepsFraction : Bool
  deriving Repr, DecidableEq

/-- The exponent of a power of ten: a sign and at least two digits. -/
def exponentText (exponent : Int) : Text :=
  let sign : Text := if exponent < 0 then "-" else "+"
  let digits := ofNat exponent.natAbs
  let padding : Text := List.replicate (2 - digits.length) '0'
  "e" ++ sign ++ padding ++ digits

/-- Digits with a point behind the first `whole` of them, if any digits follow. -/
def pointed (digits : Text) (whole : Nat) : Text :=
  match digits.drop whole with
  | [] => digits
  | fraction => digits.take whole ++ "." ++ fraction

/-- A positive number in a layout. -/
def Layout.print (layout : Layout) (value : Digits) : Text :=
  let value := value.trim
  let leading := value.leading
  let digits := ofNat value.digits
  if layout.leastPositional ≤ leading && leading < layout.positionalBound then
    if leading < 0 then
      "0." ++ List.replicate (leading.natAbs - 1) '0' ++ digits
    else
      let whole := leading.natAbs + 1
      let padded := digits ++ List.replicate (whole - digits.length) '0'
      let text := pointed padded whole
      if layout.keepsFraction && padded.length ≤ whole then
        text ++ ".0"
      else
        text
  else
    pointed digits 1 ++ exponentText leading

/-- The layout of numbers inside style declarations: six significant digits. -/
def styleLayout : Layout :=
  ⟨-4, 6, false⟩

/-- The layout of numbers inside messages: as many digits as read back. -/
def messageLayout : Layout :=
  ⟨-4, 16, true⟩

/-- A number with its sign, or the words for what is no finite number. -/
def printWith (layout : Layout) (digits : Nat → Int → Digits) (number : Binary64) : Text :=
  match number.shape with
  | .notANumber => "nan"
  | .infinite negative => if negative then "-inf" else "inf"
  | .finite negative mantissa exponent =>
      let sign : Text := if negative then "-" else []
      if mantissa = 0 then
        sign ++ (if layout.keepsFraction then "0.0" else "0")
      else
        sign ++ layout.print (digits mantissa exponent)

/-- The text of a number inside a style declaration. -/
def styleText (number : Binary64) : Text :=
  printWith styleLayout
    (fun mantissa exponent =>
      let (numerator, denominator) := ratio mantissa exponent
      significant 6 numerator denominator)
    number

/-- The number of values of the fraction of a size. -/
def sizeFractionWeight : Nat := 1000000

/-- The fraction of a size in six digits, without the zeros at its end but with one digit at
least. -/
def sizeFraction (fraction : Nat) : Text :=
  let digits := ofNat fraction
  let padded := List.replicate (6 - digits.length) '0' ++ digits
  match dropEndWhile (· == '0') padded with
  | [] => "0"
  | kept => kept

/-- The text of a size: an integer, or a number rounded to six digits behind the point. An
infinite number is no size. -/
def sizeText? (number : Binary64) : Option Text :=
  match number.toInt?, number.shape with
  | some value, _ => some (ofInt value)
  | none, .finite negative mantissa exponent =>
      let (numerator, denominator) := ratio mantissa exponent
      let scaled := roundDiv (numerator * sizeFractionWeight) denominator
      let sign : Text := if negative then "-" else []
      some (sign ++ ofNat (scaled / sizeFractionWeight) ++ "." ++
        sizeFraction (scaled % sizeFractionWeight))
  | none, _ => none

/-- The text of a number inside a message. -/
def messageText (number : Binary64) : Text :=
  printWith messageLayout shortest number

end EmailComposer.Binary64
