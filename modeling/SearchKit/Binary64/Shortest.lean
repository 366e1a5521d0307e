import SearchKit.Binary64.Basic

/-!
The shortest decimal that reads back as a given binary64 number, and among the shortest the nearest.
The decimals with a given count of digits form a grid; the count is the least for which one of the
two grid points around the number lies in the interval that rounds to it.
-/

namespace SearchKit

set_option autoImplicit false

/-- The decimal `digits * 10 ^ exponent`. -/
structure Decimal where
  digits : Nat
  exponent : Int
deriving DecidableEq, Repr

namespace Binary64

def decimalLength (number : Nat) : Nat := (Nat.toDigits 10 number).length

/-- The exponent of the greatest power of ten that is at most a positive ratio. -/
def decimalOrder (numerator denominator : Nat) : Int :=
  if denominator ≤ numerator then (decimalLength (numerator / denominator) : Int) - 1
  else
    let length := decimalLength (denominator / numerator)
    if denominator = numerator * Nat.pow 10 (length - 1) then 1 - (length : Int)
    else -(length : Int)

def inDecimalUnits (numerator denominator : Nat) (exponent : Int) : Nat × Nat :=
  if 0 ≤ exponent then (numerator, denominator * Nat.pow 10 exponent.toNat)
  else (numerator * Nat.pow 10 (-exponent).toNat, denominator)

/-- The ends of the interval that rounds to a number, in quarters of the unit of its last place,
and whether the ends belong to it. Below a power of two the neighbour is half as far away. -/
structure RoundingInterval where
  lower : Nat
  upper : Nat
  closed : Bool

def roundingInterval (number : Binary64) : RoundingInterval :=
  let middle := 4 * number.significand
  { lower :=
      if number.significand = 0x10000000000000 ∧ -1074 < number.exponent then middle - 1
      else middle - 2
    upper := middle + 2
    closed := number.significand % 2 == 0 }

def quarters (number : Binary64) (count : Nat) : Nat × Nat :=
  if 2 ≤ number.exponent then (count * Nat.pow 2 (number.exponent - 2).toNat, 1)
  else (count, Nat.pow 2 (2 - number.exponent).toNat)

def readsBack (number : Binary64) (decimal : Decimal) : Bool :=
  let interval := roundingInterval number
  let within (count : Nat) : Nat × Nat :=
    let (numerator, denominator) := quarters number count
    inDecimalUnits numerator denominator decimal.exponent
  let lower := within interval.lower
  let upper := within interval.upper
  let scaledLower := decimal.digits * lower.2
  let scaledUpper := decimal.digits * upper.2
  if interval.closed then lower.1 ≤ scaledLower && scaledUpper ≤ upper.1
  else lower.1 < scaledLower && scaledUpper < upper.1

/-- The nearest of the two grid points around the number that read back, on the grid of the given
count of digits; the even one when both are equally near. -/
def gridPoint? (number : Binary64) (count : Nat) : Option Decimal :=
  let (numerator, denominator) := number.ratio
  let exponent := decimalOrder numerator denominator + 1 - count
  let units := inDecimalUnits numerator denominator exponent
  let below : Decimal := ⟨units.1 / units.2, exponent⟩
  let above : Decimal := ⟨units.1 / units.2 + 1, exponent⟩
  let nearest : Decimal := ⟨roundQuotient units.1 units.2, exponent⟩
  match readsBack number below, readsBack number above with
  | true, true => some nearest
  | true, false => some below
  | false, true => some above
  | false, false => none

/-- The shortest decimal of the magnitude. Seventeen digits are always enough. -/
def shortest (number : Binary64) : Decimal :=
  if number.isZero then ⟨0, 0⟩
  else ((List.range 17).findSome? fun index => gridPoint? number (index + 1)).getD ⟨0, 0⟩

end Binary64

namespace Decimal

/-- The range of decimal orders that are written positionally; all others have an exponent. -/
structure Layout where
  firstPositional : Int
  firstScientific : Int

def pointAfterFirst : List Char → List Char
  | [] => []
  | [digit] => [digit]
  | digit :: rest => digit :: '.' :: rest

def exponentText (order : Int) : List Char :=
  'e' :: (if order < 0 then '-' else '+') :: Nat.toDigits 10 order.natAbs

/-- The digits without the zeros at their end, with at least one digit on each side of a point. -/
def text (layout : Layout) (decimal : Decimal) : List Char :=
  let written := Nat.toDigits 10 decimal.digits
  let digits := ((written.reverse.dropWhile (· == '0')).reverse)
  if digits = [] then ['0', '.', '0']
  else
    let order := decimal.exponent + written.length - 1
    if order < layout.firstPositional ∨ layout.firstScientific ≤ order then
      pointAfterFirst digits ++ exponentText order
    else if order < 0 then
      '0' :: '.' :: (List.replicate (-order - 1).toNat '0' ++ digits)
    else
      let wholeLength := order.toNat + 1
      if digits.length ≤ wholeLength then
        digits ++ List.replicate (wholeLength - digits.length) '0' ++ ['.', '0']
      else digits.take wholeLength ++ '.' :: digits.drop wholeLength

end Decimal

end SearchKit
