/-!
# Binary numbers

A temperature is kept with the accuracy of a binary format, and what is written for it is the value
that the format holds.  Both directions are done here in exact arithmetic on natural numbers.

A `Dyadic` is a whole number times a power of two.  `BinaryFormat.round` gives the dyadic of a
format that is nearest to a fraction, the even one of two that are equally near; values that are
too large for the format are infinite.
-/

namespace DocSplice

/-- The value `significand * 2 ^ exponent`. -/
structure Dyadic where
  significand : Nat
  exponent : Int
  deriving DecidableEq, Repr

/-- A number of a binary format. -/
inductive BinaryNumber where
  | finite (negative : Bool) (magnitude : Dyadic)
  | infinite (negative : Bool)
  | notANumber
  deriving DecidableEq, Repr

/-- A binary format. -/
structure BinaryFormat where
  /-- The number of binary digits of a significand. -/
  precision : Nat
  /-- The exponent of the smallest step. -/
  leastExponent : Int
  /-- Values from `2 ^ overflow` on are infinite. -/
  overflow : Int
  deriving DecidableEq, Repr

namespace BinaryFormat

/-- The format of four bytes. -/
def single : BinaryFormat := ⟨24, -149, 128⟩

/-- The format of eight bytes. -/
def double : BinaryFormat := ⟨53, -1074, 1024⟩

/-- The quotient rounded to the nearest whole number, the even one of two. -/
def roundQuotient (numerator denominator : Nat) : Nat :=
  let quotient := numerator / denominator
  let twice := 2 * (numerator % denominator)
  if denominator < twice || (denominator == twice && quotient % 2 == 1) then quotient + 1
  else quotient

/-- A fraction divided by a power of two. -/
def scaleFraction (numerator denominator : Nat) (exponent : Int) : Nat × Nat :=
  (numerator * Nat.pow 2 (-exponent).toNat, denominator * Nat.pow 2 exponent.toNat)

/-- The exponent of the step at a fraction that is not zero. -/
def stepExponent (f : BinaryFormat) (numerator denominator : Nat) : Int :=
  let guess : Int := (numerator.log2 : Int) - denominator.log2 - f.precision
  let (n, d) := scaleFraction numerator denominator guess
  let exponent := if n / d < Nat.pow 2 f.precision then guess else guess + 1
  max exponent f.leastExponent

/-- The number of the format that is nearest to a fraction. -/
def round (f : BinaryFormat) (negative : Bool) (numerator denominator : Nat) : BinaryNumber :=
  if numerator = 0 then .finite negative ⟨0, 0⟩
  else
    let exponent := f.stepExponent numerator denominator
    let (n, d) := scaleFraction numerator denominator exponent
    let significand := roundQuotient n d
    if f.overflow ≤ (significand.log2 : Int) + exponent then .infinite negative
    else .finite negative ⟨significand, exponent⟩

/-- The number of the format that is nearest to a number of another one. -/
def convert (f : BinaryFormat) : BinaryNumber → BinaryNumber
  | .finite negative ⟨significand, exponent⟩ =>
    f.round negative (significand * Nat.pow 2 exponent.toNat) (Nat.pow 2 (-exponent).toNat)
  | x => x

/-- Decimal exponents beyond this bound, either way, are out of the range of every format. -/
def exponentBound : Int := 400

/-- The number of the format that is nearest to `digits * 10 ^ exponent`. -/
def ofDecimal (f : BinaryFormat) (negative : Bool) (digits : Nat) (exponent : Int) :
    BinaryNumber :=
  if digits = 0 || (Nat.log2 digits : Int) + exponent < -exponentBound then
    .finite negative ⟨0, 0⟩
  else if exponentBound < exponent then .infinite negative
  else f.round negative (digits * Nat.pow 10 exponent.toNat) (Nat.pow 10 (-exponent).toNat)

/-- The same value with as many digits in the significand as the format has. -/
def normalize (f : BinaryFormat) (v : Dyadic) : Dyadic :=
  let room : Int := (f.precision : Int) - 1 - v.significand.log2
  let shift := (min room (v.exponent - f.leastExponent)).toNat
  ⟨v.significand * Nat.pow 2 shift, v.exponent - shift⟩

end BinaryFormat

end DocSplice
