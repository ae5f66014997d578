import Cadence.Number.Integer
import Cadence.Number.Scaled

/-!
# Binary floating point numbers

Numbers with a significand of 53 bits, as rows hold them.  A decimal number is
rounded to the nearest of them, a tie to the even significand, and each of them
is written with the fewest decimal digits that round back to it.
-/

namespace Cadence
namespace Number

/-- A binary floating point number of 64 bits. -/
inductive Binary64 where
  /-- The significand times a power of two; zero has a sign too. -/
  | finite (negative : Bool) (significand : Nat) (exponent : Int)
  /-- More than every number, or less when negative. -/
  | infinite (negative : Bool)
  /-- No number. -/
  | undefined
  deriving DecidableEq, Repr

namespace Binary64

/-- The smallest exponent of a significand. -/
def smallestExponent : Int :=
  -1074

/-- The largest exponent of a significand. -/
def largestExponent : Int :=
  971

/-- One more than the largest significand. -/
def significandLimit : Nat :=
  9007199254740992

/-- The smallest significand that uses all 53 bits. -/
def leastFullSignificand : Nat :=
  4503599627370496

/-- A quotient rounded to the nearest whole number, a tie to the even one. -/
def roundQuotient (dividend divisor : Nat) : Nat :=
  let quotient := dividend / divisor
  let doubled := 2 * (dividend % divisor)
  if doubled < divisor then quotient
  else if divisor < doubled then quotient + 1
  else quotient + quotient % 2

/-- The number nearest to a positive fraction. -/
def ofFraction (negative : Bool) (dividend divisor : Nat) : Binary64 :=
  let scaled (exponent : Int) : Nat × Nat :=
    (dividend * raised 2 (-exponent), divisor * raised 2 exponent)
  let guess : Int := (dividend.log2 : Int) - divisor.log2 - 53
  let guessed := scaled guess
  let fitting :=
    if guessed.1 / guessed.2 < significandLimit then guess else guess + 1
  let exponent := max fitting smallestExponent
  let fraction := scaled exponent
  let rounded := roundQuotient fraction.1 fraction.2
  let normal :=
    if rounded = significandLimit then (leastFullSignificand, exponent + 1)
    else (rounded, exponent)
  if largestExponent < normal.2 then
    infinite negative
  else
    finite negative normal.1 normal.2

/-- The number nearest to a decimal one.  Decimals far outside the range are
decided by their leading digit alone. -/
def ofDecimal (negative : Bool) (coefficient : Nat) (exponent : Int) : Binary64 :=
  let leading := exponent + (naturalDigits coefficient).length
  if coefficient = 0 ∨ leading < -330 then
    finite negative 0 smallestExponent
  else if 330 < leading then
    infinite negative
  else
    ofFraction negative (coefficient * raised 10 exponent) (raised 10 (-exponent))

/-- Whether a number is zero. -/
def isZero : Binary64 → Bool
  | finite _ significand _ => significand == 0
  | infinite _ => false
  | undefined => false

/-- The decimal exponent of the leading digit of a positive number. -/
def leadingExponent (significand : Nat) (exponent : Int) : Int :=
  let scaled :=
    significand * raised 2 exponent * raised 10 330 / raised 2 (-exponent)
  ((naturalDigits scaled).length : Int) - 331

/-- The decimal with `count` digits that rounds to a positive number and lies
nearest to it, as a coefficient and an exponent.  Only the two decimals around
the number can be that. -/
def decimalOf?
    (significand : Nat)
    (exponent : Int)
    (count : Nat) : Option (Nat × Int) :=
  let unit := leadingExponent significand exponent - count + 1
  let above := raised 2 exponent * raised 10 (-unit)
  let below := raised 2 (-exponent) * raised 10 unit
  let lowerGap :=
    if significand = leastFullSignificand ∧ smallestExponent < exponent then 1 else 2
  let lowest := (4 * significand - lowerGap) * above
  let highest := (4 * significand + 2) * above
  let roundsBack (coefficient : Nat) : Bool :=
    let place := 4 * coefficient * below
    if significand % 2 = 0 then decide (lowest ≤ place ∧ place ≤ highest)
    else decide (lowest < place ∧ place < highest)
  let lower := significand * above / below
  let remainder := 2 * (significand * above % below)
  let nearer :=
    if remainder < below then lower
    else if below < remainder then lower + 1
    else lower + lower % 2
  let farther := if nearer = lower then lower + 1 else lower
  if roundsBack nearer then some (nearer, unit)
  else if roundsBack farther then some (farther, unit)
  else none

/-- The shortest decimal that rounds to a positive number; seventeen digits
always do. -/
def shortest (significand : Nat) (exponent : Int) : Nat × Int :=
  ((List.range' 1 17).findSome? (decimalOf? significand exponent)).getD (0, 0)

/-- Digits without the zeros at their end. -/
def withoutTrailingZeros (digits : List Char) : List Char :=
  (digits.reverse.dropWhile fun digit => digit == '0').reverse

/-- A positive number in positional or scientific form: scientific from 10 to the
16 on and below 10 to the -4. -/
def positiveText (significand : Nat) (exponent : Int) : List Char :=
  let decimal := shortest significand exponent
  let allDigits := naturalDigits decimal.1
  let digits := withoutTrailingZeros allDigits
  let leading := decimal.2 + allDigits.length - 1
  if leading < -4 ∨ 16 ≤ leading then
    let fraction := digits.drop 1
    let exponentDigits := naturalDigits leading.natAbs
    digits.take 1 ++ (if fraction.isEmpty then [] else '.' :: fraction) ++
      'e' :: (if leading < 0 then '-' else '+') ::
        (List.replicate (2 - exponentDigits.length) '0' ++ exponentDigits)
  else if leading < 0 then
    '0' :: '.' :: (List.replicate (-leading - 1).toNat '0' ++ digits)
  else
    let whole := leading.toNat + 1
    let fraction := digits.drop whole
    digits.take whole ++ List.replicate (whole - digits.length) '0' ++
      '.' :: (if fraction.isEmpty then ['0'] else fraction)

/-- A number as text. -/
def text : Binary64 → List Char
  | finite negative significand exponent =>
    (if negative then ['-'] else []) ++
      (if significand = 0 then "0.0".toList else positiveText significand exponent)
  | infinite negative => (if negative then ['-'] else []) ++ "inf".toList
  | undefined => "nan".toList

end Binary64
end Number
end Cadence
