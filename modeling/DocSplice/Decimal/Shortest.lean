import DocSplice.Decimal.Binary
import DocSplice.Text.Basic

/-!
# Shortest decimals

A binary number is written with the fewest decimal digits that read back as the same number.

The decimals that read back as a number of a format fill an interval around it, which reaches half a
step either way and holds its ends when the significand is even.  Multiples of a power of ten form a
grid, and every grid contains all coarser ones, so the fewest digits are those of a point on the
coarsest grid that meets the interval.  On any grid only the two neighbours of the number need to be
tried, and the nearer one is taken.
-/

namespace DocSplice

/-- The value `digits * 10 ^ exponent`. -/
structure Decimal where
  digits : Nat
  exponent : Int
  deriving DecidableEq, Repr

namespace Decimal

/-- The decimal digits of a number. -/
def digitsText (n : Nat) : Text := Nat.toDigits 10 n

/-- The decimal written without an exponent. -/
def positional (d : Decimal) : Text :=
  let digits := digitsText d.digits
  let places := (-d.exponent).toNat
  if places = 0 then digits ++ List.replicate d.exponent.toNat '0'
  else if places < digits.length then
    digits.take (digits.length - places) ++ '.' :: digits.drop (digits.length - places)
  else '0' :: '.' :: List.replicate (places - digits.length) '0' ++ digits

/-- Whether the decimal is a whole number, given that its digits end in no zero. -/
def isWhole (d : Decimal) : Bool := d.digits == 0 || 0 ≤ d.exponent

end Decimal

/-- The numbers that round to the same one, in quarters of its step. -/
structure RoundingInterval where
  low : Nat
  middle : Nat
  high : Nat
  /-- Whether the ends round to the same number. -/
  closed : Bool
  /-- A quarter of the step is two to this power. -/
  exponent : Int
  deriving Repr

namespace RoundingInterval

/-- The interval of a normalized number; just below a power of two the steps are half as wide. -/
def of (f : BinaryFormat) (v : Dyadic) : RoundingInterval :=
  let narrow := v.significand == Nat.pow 2 (f.precision - 1) && f.leastExponent < v.exponent
  let middle := 4 * v.significand
  ⟨middle - (if narrow then 1 else 2), middle, middle + 2, v.significand % 2 == 0, v.exponent - 2⟩

/-- The point of the decimal grid at `10 ^ k` that lies in the interval, the nearer one of two. -/
def pointOn? (i : RoundingInterval) (k : Int) : Option Nat :=
  let binary := Nat.pow 2 i.exponent.toNat * Nat.pow 10 (-k).toNat
  let grid := Nat.pow 10 k.toNat * Nat.pow 2 (-i.exponent).toNat
  let inside (c : Nat) : Bool :=
    if i.closed then i.low * binary ≤ c * grid && c * grid ≤ i.high * binary
    else i.low * binary < c * grid && c * grid < i.high * binary
  let below := i.middle * binary / grid
  match inside below, inside (below + 1) with
  | true, true =>
    if 2 * (i.middle * binary) ≤ (2 * below + 1) * grid then some below else some (below + 1)
  | true, false => some below
  | false, true => some (below + 1)
  | false, false => none

/-- The point on the first grid that meets the interval, trying so many grids from `10 ^ k` down. -/
def firstPoint (i : RoundingInterval) : Nat → Int → Decimal
  | 0, k => ⟨0, k⟩
  | fuel + 1, k =>
    match i.pointOn? k with
    | some digits => ⟨digits, k⟩
    | none => i.firstPoint fuel (k - 1)

end RoundingInterval

namespace BinaryFormat

/-- The shortest decimal that reads back as the value in the format.  The search starts on a grid
that is coarser than the value, and the grid of seventeen digits is fine enough for every format. -/
def shortest (f : BinaryFormat) (v : Dyadic) : Decimal :=
  if v.significand = 0 then ⟨0, 0⟩
  else
    let v := f.normalize v
    let magnitude : Int := (v.significand.log2 : Int) + v.exponent
    (RoundingInterval.of f v).firstPoint 24 (magnitude * 30103 / 100000 + 2)

end BinaryFormat

namespace BinaryNumber

/-- The minus sign of a negative number. -/
def signText (negative : Bool) : Text := if negative then ['-'] else []

/-- The shortest text of a number of the format. -/
def text (f : BinaryFormat) : BinaryNumber → Text
  | .finite negative magnitude => signText negative ++ (f.shortest magnitude).positional
  | .infinite negative => signText negative ++ "inf".toList
  | .notANumber => "NaN".toList

end BinaryNumber

end DocSplice
