/-!
Finite binary64 numbers as exact values: a sign, a significand and a power of two. Arithmetic is
done on ratios of natural numbers and rounded once, to the nearest number and to the even
significand at a tie.
-/

namespace SearchKit

set_option autoImplicit false

/-- The one admissible form of a number: a full significand, or the least exponent. -/
def Binary64.Canonical (significand : Nat) (exponent : Int) : Prop :=
  significand < 0x20000000000000 ∧ -1074 ≤ exponent ∧ exponent ≤ 971 ∧
    (exponent = -1074 ∨ 0x10000000000000 ≤ significand)

instance (significand : Nat) (exponent : Int) :
    Decidable (Binary64.Canonical significand exponent) :=
  inferInstanceAs (Decidable (_ ∧ _))

/-- The number is `significand * 2 ^ exponent`, negated when `negative` holds. Zero has a sign. -/
structure Binary64 where
  negative : Bool
  significand : Nat
  exponent : Int
  canonical : Binary64.Canonical significand exponent
deriving DecidableEq, Repr

namespace Binary64

def zero (negative : Bool) : Binary64 := ⟨negative, 0, -1074, by decide⟩

instance : Inhabited Binary64 := ⟨zero false⟩

def isZero (number : Binary64) : Bool := number.significand == 0

def negate (number : Binary64) : Binary64 := { number with negative := !number.negative }

def ratio (number : Binary64) : Nat × Nat :=
  if 0 ≤ number.exponent then (number.significand * Nat.pow 2 number.exponent.toNat, 1)
  else (number.significand, Nat.pow 2 (-number.exponent).toNat)

/-- A quotient rounded to the nearest natural number, and to the even one at a tie. -/
def roundQuotient (numerator denominator : Nat) : Nat :=
  let quotient := numerator / denominator
  let twice := 2 * (numerator % denominator)
  if twice < denominator then quotient
  else if denominator < twice then quotient + 1
  else quotient + quotient % 2

def inUnits (numerator denominator : Nat) (exponent : Int) : Nat × Nat :=
  if 0 ≤ exponent then (numerator, denominator * Nat.pow 2 exponent.toNat)
  else (numerator * Nat.pow 2 (-exponent).toNat, denominator)

/-- The exponent at which a positive ratio has a significand of 53 bits, at least the least one. -/
def exponentFor (numerator denominator : Nat) : Int :=
  let guess : Int := (Nat.log2 numerator : Int) - Nat.log2 denominator - 53
  let units := inUnits numerator denominator guess
  max (-1074) (if 0x20000000000000 ≤ units.1 / units.2 then guess + 1 else guess)

/-- The number nearest to a ratio, or none when that would lie beyond the largest number. -/
def ofRatio (negative : Bool) (numerator denominator : Nat) : Option Binary64 :=
  if numerator = 0 then some (zero negative)
  else
    let exponent := exponentFor numerator denominator
    let units := inUnits numerator denominator exponent
    let rounded := roundQuotient units.1 units.2
    let significand := if rounded = 0x20000000000000 then 0x10000000000000 else rounded
    let exponent := if rounded = 0x20000000000000 then exponent + 1 else exponent
    if admissible : Canonical significand exponent then
      some ⟨negative, significand, exponent, admissible⟩
    else none

def product (left right : Binary64) : Option Binary64 :=
  ofRatio (left.negative != right.negative)
    (left.ratio.1 * right.ratio.1) (left.ratio.2 * right.ratio.2)

def quotient (left right : Binary64) : Option Binary64 :=
  ofRatio (left.negative != right.negative)
    (left.ratio.1 * right.ratio.2) (left.ratio.2 * right.ratio.1)

def integral? (number : Binary64) : Option Int :=
  let (numerator, denominator) := number.ratio
  if numerator % denominator = 0 then
    let magnitude : Int := (numerator / denominator : Nat)
    some (if number.negative then -magnitude else magnitude)
  else none

def powerOfTen (exponent : Nat) : Binary64 :=
  (ofRatio false (Nat.pow 10 exponent) 1).getD (zero false)

/-- Division by the power of ten 308 until the exponent that remains is above -309, or nothing is
left of the number. -/
def reduceExponent (number : Binary64) (exponent : Int) : Binary64 × Int :=
  if number.isZero = false ∧ exponent < -308 then
    reduceExponent ((number.quotient (powerOfTen 308)).getD (zero false)) (exponent + 308)
  else (number, exponent)
termination_by (-exponent).toNat
decreasing_by omega

/-- A significand scaled by a power of ten: the significand is rounded first, then multiplied by or
divided by the rounded power. None when the result is beyond the largest number. -/
def ofScaled (significand : Nat) (exponent : Int) : Option Binary64 := do
  let whole ← ofRatio false significand 1
  let (number, exponent) := reduceExponent whole exponent
  if number.isZero then some number
  else if 308 < exponent then none
  else if 0 ≤ exponent then number.product (powerOfTen exponent.toNat)
  else number.quotient (powerOfTen (-exponent).toNat)

end Binary64

end SearchKit
