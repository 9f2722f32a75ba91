import EmailComposer.Number.Decimal
import EmailComposer.Number.Reading
import EmailComposer.Style.Escape

namespace EmailComposer.Style

/-!
# Quantities

A quantity is a number with a unit, or without one. In its normal form the unit is in
small letters, a whole number has no point, any other has up to six digits behind it,
and a zero length has no unit.
-/

open EmailComposer.Text

/-- Units in which zero needs no unit. -/
def lengthUnits : List Text :=
  ["cm", "mm", "in", "px", "pc", "pt", "em", "ex"]

/-- A number taken apart: its sign, its digits before and behind the point, and its unit.
The digits may be those of any script. -/
structure Quantity where
  sign : Text
  whole : Text
  fraction : Text
  unit : Text
  deriving Repr, DecidableEq

namespace Quantity

/-- A sign in front of a number, and the rest. -/
def splitSign : Text → Text × Text
  | '+' :: rest => (['+'], rest)
  | '-' :: rest => (['-'], rest)
  | text => ([], text)

/-- Takes a number apart. A point without a digit behind it belongs to the unit. -/
def read (spelling : Text) : Quantity :=
  let (sign, unsigned) := splitSign (plainName spelling)
  let whole := unsigned.takeWhile isDecimalDigit
  let rest := unsigned.dropWhile isDecimalDigit
  let fraction : Text :=
    match rest with
    | '.' :: following => following.takeWhile isDecimalDigit
    | _ => []
  if fraction.isEmpty then
    ⟨sign, whole, [], rest⟩
  else
    ⟨sign, whole, fraction, rest.drop (fraction.length + 1)⟩

/-- The number that decimal digits of any script stand for. -/
def valueOf (digits : Text) : Nat :=
  digits.foldl (fun value char => value * 10 + (digitValue? char).getD 0) 0

/-- The number of a quantity without its sign; none if it is beyond all bounds. -/
def digits? (quantity : Quantity) : Option Text :=
  if quantity.fraction.isEmpty then
    if Number.digitLimit < quantity.whole.length then
      none
    else
      some (ofNat (valueOf quantity.whole))
  else
    (Binary64.ofDecimal false (valueOf (quantity.whole ++ quantity.fraction))
      (-quantity.fraction.length)).sizeText?

/-- A quantity in normal form; none if its number is beyond all bounds. -/
def print? (quantity : Quantity) : Option Text :=
  quantity.digits?.map fun (digits : Text) =>
    if digits = "0" then
      if quantity.unit ∈ lengthUnits then
        digits
      else
        digits ++ quantity.unit
    else
      quantity.sign ++ digits ++ quantity.unit

end Quantity

end EmailComposer.Style
