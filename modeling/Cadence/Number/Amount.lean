import Cadence.Number.Integer

/-!
# Amounts of money

Exact decimal amounts.  An amount keeps every digit it was written with, trailing
zeros included, and amounts that are not numbers are kept apart: they cannot be
compared with anything.
-/

namespace Cadence
namespace Number

open Text

/-- A decimal amount. -/
inductive Amount where
  /-- The coefficient times a power of ten; zero has a sign too. -/
  | finite (negative : Bool) (coefficient : Nat) (exponent : Int)
  /-- More than every number, or less when negative. -/
  | infinite (negative : Bool)
  /-- No number; the payload is carried along. -/
  | undefined (signaling negative : Bool) (payload : Nat)
  deriving DecidableEq, Repr

namespace Amount

/-- The largest power of ten of the leading digit of an amount. -/
def largestExponent : Int :=
  999999999999999999

/-- The smallest power of ten of the last digit of an amount. -/
def smallestExponent : Int :=
  -1999999999999999997

/-- The power of ten of the leading digit. -/
def leadingExponent (coefficient : Nat) (exponent : Int) : Int :=
  exponent + (naturalDigits coefficient).length - 1

/-- The longest run of digits of any script at the start of a text, as their
values, and the text after it. -/
def takeDigits : List Char → List Nat × List Char
  | [] => ([], [])
  | character :: rest =>
    match digitValue? character with
    | some value => (value :: (takeDigits rest).1, (takeDigits rest).2)
    | none => ([], character :: rest)

/-- The number that digit values spell. -/
def ofDigitValues (values : List Nat) : Nat :=
  values.foldl (fun spelled value => 10 * spelled + value) 0

/-- The exponent part of an amount: nothing, or an `e` and a whole number. -/
def readExponent? : List Char → Option Int
  | [] => some 0
  | mark :: rest =>
    if mark = 'e' ∨ mark = 'E' then
      let signed : Bool × List Char :=
        match rest with
        | '-' :: digits => (true, digits)
        | '+' :: digits => (false, digits)
        | digits => (false, digits)
      match takeDigits signed.2 with
      | ([], _) => none
      | (values, []) =>
        let magnitude : Int := ofDigitValues values
        some (if signed.1 then -magnitude else magnitude)
      | (_, _ :: _) => none
    else
      none

/-- A finite amount whose exponents stay between the limits. -/
def bounded?
    (negative : Bool)
    (coefficient : Nat)
    (exponent : Int) : Option Amount :=
  if leadingExponent coefficient exponent ≤ largestExponent ∧
      smallestExponent ≤ exponent then
    some (finite negative coefficient exponent)
  else
    none

/-- A number of digits, an optional point and an optional exponent. -/
def readFinite? (negative : Bool) (text : List Char) : Option Amount :=
  let whole := takeDigits text
  let fraction :=
    match whole.2 with
    | '.' :: rest => takeDigits rest
    | rest => ([], rest)
  if whole.1.isEmpty && fraction.1.isEmpty then
    none
  else
    match readExponent? fraction.2 with
    | none => none
    | some exponent =>
      bounded? negative (ofDigitValues (whole.1 ++ fraction.1))
        (exponent - fraction.1.length)

/-- The digits of the payload of an amount that is no number. -/
def readPayload? (text : List Char) : Option Nat :=
  match takeDigits text with
  | (values, []) => some (ofDigitValues values)
  | (_, _ :: _) => none

/-- A word for an infinite or undefined amount, or else a number. -/
def readUnsigned? (negative : Bool) (text : List Char) : Option Amount :=
  let small := text.map Char.toLower
  if small = "inf".toList ∨ small = "infinity".toList then
    some (infinite negative)
  else if small.take 3 = "nan".toList then
    (readPayload? (text.drop 3)).map (undefined false negative)
  else if small.take 4 = "snan".toList then
    (readPayload? (text.drop 4)).map (undefined true negative)
  else
    readFinite? negative text

/-- The amount that a text spells.  White space at the ends and underscores
anywhere do not count. -/
def read? (text : List Char) : Option Amount :=
  match (trim text).filter (fun character => character != '_') with
  | '-' :: rest => readUnsigned? true rest
  | '+' :: rest => readUnsigned? false rest
  | rest => readUnsigned? false rest

/-- A number of digits with the point after the first `whole` of them; zeros fill
the places that are missing in front. -/
def placePoint (digits : List Char) (whole : Int) : List Char :=
  if 0 < whole then
    digits.take whole.toNat ++ '.' :: digits.drop whole.toNat
  else
    '0' :: '.' :: (List.replicate (-whole).toNat '0' ++ digits)

/-- Digits in scientific form with the exponent of the leading digit. -/
def scientific (digits : List Char) (exponent : Int) : List Char :=
  let fraction := digits.drop 1
  digits.take 1 ++ (if fraction.isEmpty then [] else '.' :: fraction) ++
    'E' :: (if exponent < 0 then '-' else '+') :: naturalDigits exponent.natAbs

/-- The digits of a finite amount without its sign: positional unless the
exponent is positive or the leading digit is more than six places behind the
point. -/
def unsignedDigits (coefficient : Nat) (exponent : Int) : List Char :=
  let digits := naturalDigits coefficient
  let leading := leadingExponent coefficient exponent
  if exponent ≤ 0 ∧ -6 ≤ leading then
    if exponent = 0 then digits else placePoint digits (leading + 1)
  else
    scientific digits leading

/-- An amount as text. -/
def text (amount : Amount) : String :=
  let sign (negative : Bool) : List Char := if negative then ['-'] else []
  String.ofList <|
    match amount with
    | finite negative coefficient exponent =>
      sign negative ++ unsignedDigits coefficient exponent
    | infinite negative => sign negative ++ "Infinity".toList
    | undefined signaling negative payload =>
      sign negative ++ (if signaling then ['s'] else []) ++ "NaN".toList ++
        (if payload = 0 then [] else naturalDigits payload)

/-- Whether an amount is a number. -/
def isFinite : Amount → Bool
  | finite .. => true
  | infinite .. => false
  | undefined .. => false

/-- Whether an amount is zero. -/
def isZero : Amount → Bool
  | finite _ coefficient _ => coefficient == 0
  | infinite _ => false
  | undefined .. => false

/-- Whether an amount is a number below zero. -/
def isBelowZero : Amount → Bool
  | finite negative coefficient _ => negative && coefficient != 0
  | infinite negative => negative
  | undefined .. => false

/-- Whether an amount is more than zero; an undefined amount gives no answer. -/
def exceedsZero? : Amount → Option Bool
  | finite negative coefficient _ => some (!negative && coefficient != 0)
  | infinite negative => some (!negative)
  | undefined .. => none

theorem exceedsZero?_eq_none_iff {amount : Amount} :
    amount.exceedsZero? = none ↔
      ∃ signaling negative payload, amount = undefined signaling negative payload := by
  cases amount <;> simp [exceedsZero?]

end Amount
end Number
end Cadence
