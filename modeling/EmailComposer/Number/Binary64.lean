namespace EmailComposer

/-!
# Binary floating-point numbers

A floating-point number is its 64 bits: a sign, eleven bits of exponent and 52 bits
of fraction. Numbers are read and printed in exact natural arithmetic, so nothing
here depends on the arithmetic of the machine.
-/

/-- A floating-point number of double precision, as its bits. -/
structure Binary64 where
  bits : UInt64
  deriving Repr, DecidableEq

namespace Binary64

/-- What a floating-point number stands for; a finite one is its mantissa times a
power of two. -/
inductive Shape where
  | notANumber
  | infinite (negative : Bool)
  | finite (negative : Bool) (mantissa : Nat) (exponent : Int)
  deriving Repr, DecidableEq

/-- The number of bits of the fraction. -/
def fractionBits : Nat := 52

/-- The number of values of the fraction. -/
def fractionWeight : Nat := 0x10000000000000

/-- The least exponent of a finite number. -/
def leastExponent : Int := -1074

/-- The weight of the sign bit. -/
def signWeight : Nat := 0x8000000000000000

/-- What the bits stand for. -/
def shape (number : Binary64) : Shape :=
  let code := number.bits.toNat
  let negative : Bool := signWeight ≤ code
  let exponentField := code % signWeight / fractionWeight
  let fraction := code % fractionWeight
  if exponentField = 2047 then
    if fraction = 0 then
      .infinite negative
    else
      .notANumber
  else if exponentField = 0 then
    .finite negative fraction leastExponent
  else
    .finite negative (fractionWeight + fraction) (leastExponent + (exponentField - 1 : Nat))

/-- The number with a sign and the bits of its magnitude. -/
def ofMagnitude (negative : Bool) (magnitude : Nat) : Binary64 :=
  ⟨UInt64.ofNat ((if negative then signWeight else 0) + magnitude)⟩

/-- The bits of an infinite magnitude. -/
def infiniteMagnitude : Nat := 2047 * fractionWeight

/-- An infinite number. -/
def infinity (negative : Bool) : Binary64 :=
  ofMagnitude negative infiniteMagnitude

/-- A number that is none. -/
def notANumber : Binary64 :=
  ofMagnitude false (infiniteMagnitude + fractionWeight / 2)

/-- The quotient of two natural numbers, rounded to the nearest one, and from half
way to the even one. -/
def roundDiv (numerator denominator : Nat) : Nat :=
  let quotient := numerator / denominator
  let twice := 2 * (numerator % denominator)
  if denominator < twice || (denominator == twice && quotient % 2 == 1) then
    quotient + 1
  else
    quotient

/-- Ten or two raised to an integer, as a numerator and a denominator. -/
def ratioPow (base : Nat) : Int → Nat × Nat
  | .ofNat power => (Nat.pow base power, 1)
  | .negSucc power => (1, Nat.pow base (power + 1))

/-- The exponent at which a positive ratio has a mantissa of 53 bits, or the least
exponent if that is greater. -/
def exponentFor (numerator denominator : Nat) : Int :=
  let estimate : Int := (numerator.log2 : Int) - (denominator.log2 : Int) - fractionBits
  let (up, down) := ratioPow 2 (estimate + fractionBits)
  let exponent := if numerator * down < denominator * up then estimate - 1 else estimate
  max exponent leastExponent

/-- The floating-point number nearest to a ratio; from half way, the even one. A
ratio beyond the finite numbers gives an infinite one. -/
def ofRatio (negative : Bool) (numerator denominator : Nat) : Binary64 :=
  if numerator = 0 then
    ofMagnitude negative 0
  else
    let exponent := exponentFor numerator denominator
    let (up, down) := ratioPow 2 exponent
    let mantissa := roundDiv (numerator * down) (denominator * up)
    let magnitude := (exponent - leastExponent).toNat * fractionWeight + mantissa
    ofMagnitude negative (min magnitude infiniteMagnitude)

/-- The floating-point number nearest to an integer, unless that one is infinite. -/
def ofInt? (value : Int) : Option Binary64 :=
  let number := ofRatio (decide (value < 0)) value.natAbs 1
  match number.shape with
  | .infinite _ => none
  | _ => some number

/-- The number of decimal digits of a natural number. -/
def digitCount (value : Nat) : Nat :=
  (Nat.toDigits 10 value).length

/-- The floating-point number nearest to a natural number times a power of ten. -/
def ofDecimal (negative : Bool) (digits : Nat) (exponent : Int) : Binary64 :=
  let size := exponent + digitCount digits
  if digits = 0 then
    ofMagnitude negative 0
  else if 400 < size then
    infinity negative
  else if size < -400 then
    ofMagnitude negative 0
  else
    let (up, down) := ratioPow 10 exponent
    ofRatio negative (digits * up) down

/-- The mantissa and exponent as a ratio of natural numbers. -/
def ratio (mantissa : Nat) (exponent : Int) : Nat × Nat :=
  let (up, down) := ratioPow 2 exponent
  (mantissa * up, down)

/-- A positive or negative natural number. -/
def signed (negative : Bool) (magnitude : Nat) : Int :=
  if negative then
    -(magnitude : Int)
  else
    magnitude

/-- The integer that a floating-point number is, if it is one. -/
def toInt? (number : Binary64) : Option Int :=
  match number.shape with
  | .finite negative mantissa exponent =>
      let (numerator, denominator) := ratio mantissa exponent
      if numerator % denominator = 0 then
        some (signed negative (numerator / denominator))
      else
        none
  | _ => none

/-- The number is infinite or none at all. -/
def isUnbounded (number : Binary64) : Bool :=
  match number.shape with
  | .finite .. => false
  | _ => true

end Binary64

end EmailComposer
