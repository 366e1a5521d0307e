import Mathlib.Algebra.Order.Field.Power
import Mathlib.Data.Rat.Cast.Order
import Mathlib.Tactic.FieldSimp
import Mathlib.Tactic.Linarith
import Mathlib.Tactic.NormNum
import Mathlib.Tactic.Positivity
import Mathlib.Tactic.Ring
import SearchKit.Binary64.Shortest

/-!
The shortest decimal of a binary64 number as a rational number. It lies in the interval of rationals
that round to the number, because a grid of seventeen digits is finer than that interval is wide.
The intervals of two numbers share no rational, so the decimal belongs to one magnitude only.
-/

namespace SearchKit

set_option autoImplicit false

/-- A pair of numerator and denominator stands for a rational. -/
structure StandsFor (pair : Nat × Nat) (value : ℚ) : Prop where
  positive : 0 < pair.2
  quotient : (pair.1 : ℚ) / pair.2 = value

theorem StandsFor.eq_mul {pair : Nat × Nat} {value : ℚ} (stands : StandsFor pair value) :
    (pair.1 : ℚ) = value * pair.2 := by
  have positive : (0 : ℚ) < pair.2 := by exact_mod_cast stands.positive
  rw [← stands.quotient, div_mul_cancel₀ _ positive.ne']

def Decimal.value (decimal : Decimal) : ℚ := decimal.digits * 10 ^ decimal.exponent

namespace Binary64

def value (number : Binary64) : ℚ := number.significand * 2 ^ number.exponent

/-- A count of quarters of the unit of a number's last place. -/
def quarterValue (number : Binary64) (count : Nat) : ℚ := count * 2 ^ (number.exponent - 2)

def lowerEnd (number : Binary64) : ℚ := number.quarterValue (roundingInterval number).lower

def upperEnd (number : Binary64) : ℚ := number.quarterValue (roundingInterval number).upper

/-- A rational lies in the interval that rounds to a number, whose ends belong to it when the
significand is even. -/
def Rounds (number : Binary64) (rational : ℚ) : Prop :=
  if number.significand % 2 = 0 then number.lowerEnd ≤ rational ∧ rational ≤ number.upperEnd
  else number.lowerEnd < rational ∧ rational < number.upperEnd

theorem value_eq_quarters (number : Binary64) :
    number.value = number.quarterValue (4 * number.significand) := by
  have unit : (2 : ℚ) ^ number.exponent = 4 * 2 ^ (number.exponent - 2) := by
    rw [zpow_sub₀ (by norm_num : (2 : ℚ) ≠ 0)]
    norm_num
    ring
  rw [value, quarterValue, unit]
  push_cast
  ring

/-! ## Pairs of natural numbers as rationals -/

theorem ratio_stands_for (number : Binary64) : StandsFor number.ratio number.value := by
  unfold ratio value
  split
  · rename_i whole
    obtain ⟨power, same⟩ := Int.eq_ofNat_of_zero_le whole
    refine ⟨Nat.one_pos, ?_⟩
    simp [same]
  · rename_i fraction
    obtain ⟨power, same⟩ := Int.eq_ofNat_of_zero_le (by omega : 0 ≤ -number.exponent)
    have exponent : number.exponent = -(power : Int) := by omega
    refine ⟨Nat.two_pow_pos _, ?_⟩
    simp [exponent, div_eq_mul_inv]

theorem quarters_stand_for (number : Binary64) (count : Nat) :
    StandsFor (quarters number count) (number.quarterValue count) := by
  unfold quarters quarterValue
  split
  · rename_i whole
    obtain ⟨power, same⟩ := Int.eq_ofNat_of_zero_le (by omega : 0 ≤ number.exponent - 2)
    refine ⟨Nat.one_pos, ?_⟩
    simp [same]
  · rename_i fraction
    obtain ⟨power, same⟩ := Int.eq_ofNat_of_zero_le (by omega : 0 ≤ 2 - number.exponent)
    have exponent : number.exponent - 2 = -(power : Int) := by omega
    refine ⟨Nat.two_pow_pos _, ?_⟩
    simp [same, exponent, div_eq_mul_inv]

theorem in_decimal_units_stand_for {numerator denominator : Nat} {value : ℚ}
    (stands : StandsFor (numerator, denominator) value) (exponent : Int) :
    StandsFor (inDecimalUnits numerator denominator exponent) (value / 10 ^ exponent) := by
  have quotient := stands.quotient
  have positive := stands.positive
  unfold inDecimalUnits
  split
  · rename_i whole
    obtain ⟨power, same⟩ := Int.eq_ofNat_of_zero_le whole
    refine ⟨Nat.mul_pos positive (Nat.pow_pos (by decide)), ?_⟩
    rw [← quotient]
    simp [same, div_div]
  · rename_i fraction
    obtain ⟨power, same⟩ := Int.eq_ofNat_of_zero_le (by omega : 0 ≤ -exponent)
    have negated : exponent = -(power : Int) := by omega
    refine ⟨positive, ?_⟩
    rw [← quotient]
    simp [negated, div_eq_mul_inv]
    ring

theorem end_le_digits_iff {pair : Nat × Nat} {bound : ℚ} {decimal : Decimal}
    (stands : StandsFor pair (bound / 10 ^ decimal.exponent)) :
    (pair.1 ≤ decimal.digits * pair.2 ↔ bound ≤ decimal.value) ∧
      (decimal.digits * pair.2 ≤ pair.1 ↔ decimal.value ≤ bound) := by
  have unit : (0 : ℚ) < 10 ^ decimal.exponent := by positivity
  have positive : (0 : ℚ) < pair.2 := by exact_mod_cast stands.positive
  have numerator := stands.eq_mul
  constructor
  · rw [← Nat.cast_le (α := ℚ), numerator, Nat.cast_mul, mul_le_mul_iff_left₀ positive,
      div_le_iff₀ unit, Decimal.value]
  · rw [← Nat.cast_le (α := ℚ), numerator, Nat.cast_mul, mul_le_mul_iff_left₀ positive,
      le_div_iff₀ unit, Decimal.value]

theorem reads_back_iff (number : Binary64) (decimal : Decimal) :
    readsBack number decimal = true ↔ number.Rounds decimal.value := by
  have lower := end_le_digits_iff
    (in_decimal_units_stand_for (quarters_stand_for number (roundingInterval number).lower)
      decimal.exponent)
  have upper := end_le_digits_iff
    (in_decimal_units_stand_for (quarters_stand_for number (roundingInterval number).upper)
      decimal.exponent)
  have closed : (roundingInterval number).closed = (number.significand % 2 == 0) := rfl
  simp only [readsBack, Rounds, closed, beq_iff_eq]
  split
  · rw [Bool.and_eq_true, decide_eq_true_eq, decide_eq_true_eq]
    exact and_congr lower.1 upper.2
  · rw [Bool.and_eq_true, decide_eq_true_eq, decide_eq_true_eq, ← not_le, ← not_le, ← not_le,
      ← not_le]
    exact and_congr (not_congr lower.2) (not_congr upper.1)

/-! ## Intervals of different magnitudes -/

/-- In quarters of the smaller unit, the interval of the smaller of two magnitudes ends where that
of the greater one starts or before. They only touch when one of the significands is odd. -/
theorem upper_le_scaled_lower (smaller greater : Binary64) {power : Nat}
    (apart : greater.exponent = smaller.exponent + power)
    (ordered : power = 0 → smaller.significand < greater.significand) :
    (roundingInterval smaller).upper ≤ (roundingInterval greater).lower * 2 ^ power ∧
      (smaller.significand % 2 = 0 → greater.significand % 2 = 0 →
        (roundingInterval smaller).upper < (roundingInterval greater).lower * 2 ^ power) := by
  obtain ⟨smallBound, smallLeast, -, smallFull⟩ := smaller.canonical
  obtain ⟨-, -, -, greatFull⟩ := greater.canonical
  simp only [roundingInterval]
  cases power with
  | zero =>
      have less := ordered rfl
      split <;> omega
  | succ more =>
      have least : 1 ≤ 2 ^ more := Nat.one_le_two_pow
      have doubled (count : Nat) : 2 * count ≤ count * 2 ^ (more + 1) := by
        have product := Nat.mul_le_mul_left (2 * count) least
        rw [Nat.mul_one] at product
        rw [pow_succ]
        linarith
      split
      · have enough := doubled (4 * greater.significand - 1)
        omega
      · have enough := doubled (4 * greater.significand - 2)
        omega

theorem upper_end_le_lower_end (smaller greater : Binary64) {power : Nat}
    (apart : greater.exponent = smaller.exponent + power)
    (ordered : power = 0 → smaller.significand < greater.significand) :
    smaller.upperEnd ≤ greater.lowerEnd ∧
      (smaller.significand % 2 = 0 → greater.significand % 2 = 0 →
        smaller.upperEnd < greater.lowerEnd) := by
  obtain ⟨touching, separate⟩ := upper_le_scaled_lower smaller greater apart ordered
  have unit : (0 : ℚ) < 2 ^ (smaller.exponent - 2) := by positivity
  have scaled : greater.lowerEnd =
      ((roundingInterval greater).lower * 2 ^ power : Nat) * 2 ^ (smaller.exponent - 2) := by
    rw [lowerEnd, quarterValue, apart, show smaller.exponent + power - 2 =
      (power : Int) + (smaller.exponent - 2) by ring, zpow_add₀ (by norm_num : (2 : ℚ) ≠ 0),
      zpow_natCast]
    push_cast
    ring
  rw [scaled, upperEnd, quarterValue, mul_le_mul_iff_left₀ unit, mul_lt_mul_iff_left₀ unit,
    Nat.cast_le, Nat.cast_lt]
  exact ⟨touching, separate⟩

theorem not_rounds_to_both (smaller greater : Binary64) (power : Nat)
    (apart : greater.exponent = smaller.exponent + power)
    (ordered : power = 0 → smaller.significand < greater.significand) (rational : ℚ) :
    ¬(smaller.Rounds rational ∧ greater.Rounds rational) := by
  obtain ⟨touching, separate⟩ := upper_end_le_lower_end smaller greater apart ordered
  rintro ⟨inSmaller, inGreater⟩
  unfold Rounds at inSmaller inGreater
  split at inSmaller <;> split at inGreater
  · rename_i evenSmaller evenGreater
    have gap := separate evenSmaller evenGreater
    linarith [inSmaller.2, inGreater.1]
  all_goals linarith [inSmaller.2, inGreater.1]

theorem magnitude_of_rounds {left right : Binary64} {rational : ℚ} (inLeft : left.Rounds rational)
    (inRight : right.Rounds rational) :
    left.significand = right.significand ∧ left.exponent = right.exponent := by
  rcases lt_trichotomy left.exponent right.exponent with less | same | greater
  · obtain ⟨power, apart⟩ := Int.eq_ofNat_of_zero_le (by omega : 0 ≤ right.exponent - left.exponent)
    exact absurd ⟨inLeft, inRight⟩
      (not_rounds_to_both left right power (by omega) (by omega) rational)
  · rcases lt_trichotomy left.significand right.significand with less | equal | greater
    · exact absurd ⟨inLeft, inRight⟩
        (not_rounds_to_both left right 0 (by omega) (fun _ => less) rational)
    · exact ⟨equal, same⟩
    · exact absurd ⟨inRight, inLeft⟩
        (not_rounds_to_both right left 0 (by omega) (fun _ => greater) rational)
  · obtain ⟨power, apart⟩ := Int.eq_ofNat_of_zero_le (by omega : 0 ≤ left.exponent - right.exponent)
    exact absurd ⟨inRight, inLeft⟩
      (not_rounds_to_both right left power (by omega) (by omega) rational)

/-! ## Seventeen digits -/

theorem pow_le_of_decimal_length {number : Nat} (positive : 0 < number) :
    10 ^ (decimalLength number - 1) ≤ number := by
  unfold decimalLength
  by_contra smaller
  have some := Nat.length_toDigits_pos (b := 10) (n := number)
  rcases Nat.eq_zero_or_pos ((Nat.toDigits 10 number).length - 1) with single | several
  · rw [single] at smaller
    omega
  · have bounded := (Nat.length_toDigits_le_iff (b := 10) (by decide) several).mpr
      (Nat.lt_of_not_le smaller)
    omega

theorem lt_pow_decimal_length (number : Nat) : number < 10 ^ decimalLength number :=
  (Nat.length_toDigits_le_iff (by decide) Nat.length_toDigits_pos).mp le_rfl

theorem pow_decimal_order_le {numerator denominator : Nat} {value : ℚ} (positive : 0 < numerator)
    (stands : StandsFor (numerator, denominator) value) :
    (10 : ℚ) ^ decimalOrder numerator denominator ≤ value := by
  have some : 0 < denominator := stands.positive
  have denominatorPositive : (0 : ℚ) < denominator := by exact_mod_cast some
  rw [← stands.quotient, le_div_iff₀ denominatorPositive]
  unfold decimalOrder
  split
  · rename_i atLeastOne
    have quotient := Nat.div_pos atLeastOne some
    have leading := pow_le_of_decimal_length quotient
    have length : 0 < decimalLength (numerator / denominator) := Nat.length_toDigits_pos
    rw [show (decimalLength (numerator / denominator) : Int) - 1 =
      ((decimalLength (numerator / denominator) - 1 : Nat) : Int) by omega, zpow_natCast]
    have whole : 10 ^ (decimalLength (numerator / denominator) - 1) * denominator ≤ numerator :=
      (Nat.mul_le_mul_right denominator leading).trans (Nat.div_mul_le_self numerator denominator)
    exact_mod_cast whole
  · have length : 0 < decimalLength (denominator / numerator) := Nat.length_toDigits_pos
    dsimp only
    split
    · rename_i power
      have exponent : 1 - (decimalLength (denominator / numerator) : Int) =
          -((decimalLength (denominator / numerator) - 1 : Nat) : Int) := by omega
      rw [exponent, zpow_neg, zpow_natCast, inv_mul_le_iff₀ (by positivity)]
      have rational : (denominator : ℚ) =
          numerator * 10 ^ (decimalLength (denominator / numerator) - 1) := by
        exact_mod_cast power
      linarith
    · rw [zpow_neg, zpow_natCast, inv_mul_le_iff₀ (by positivity)]
      have bound := lt_pow_decimal_length (denominator / numerator)
      have whole : denominator ≤ 10 ^ decimalLength (denominator / numerator) * numerator :=
        (Nat.lt_mul_of_div_lt bound positive).le
      exact_mod_cast whole

/-- The interval that rounds to a number is wider than a grid of seventeen digits is coarse. -/
theorem grid_lt_interval (number : Binary64) (positive : 0 < number.significand) {grid : ℚ}
    (fine : grid * 10 ^ 16 ≤ number.value) : grid < number.upperEnd - number.lowerEnd := by
  have unit : (0 : ℚ) < 2 ^ (number.exponent - 2) := by positivity
  have bound : (number.significand : ℚ) * (4 * 2 ^ (number.exponent - 2)) <
      2 ^ 53 * (4 * 2 ^ (number.exponent - 2)) := by
    have below : (number.significand : ℚ) < 2 ^ 53 := by exact_mod_cast number.canonical.1
    exact mul_lt_mul_of_pos_right below (by positivity)
  rw [value_eq_quarters] at fine
  simp only [upperEnd, lowerEnd, quarterValue, roundingInterval] at fine ⊢
  split
  · rename_i power
    rw [power.1] at fine ⊢
    push_cast at fine ⊢
    linarith
  · have lower : ((4 * number.significand - 2 : Nat) : ℚ) = 4 * number.significand - 2 := by
      rw [Nat.cast_sub (by omega)]
      push_cast
      ring
    rw [lower]
    push_cast at fine ⊢
    linarith

/-! ## The shortest decimal -/

theorem round_quotient_cases (numerator denominator : Nat) :
    roundQuotient numerator denominator = numerator / denominator ∨
      roundQuotient numerator denominator = numerator / denominator + 1 := by
  unfold roundQuotient
  dsimp only
  split
  · exact .inl rfl
  · split
    · exact .inr rfl
    · omega

theorem reads_back_of_grid_point {number : Binary64} {count : Nat} {decimal : Decimal}
    (found : gridPoint? number count = some decimal) : readsBack number decimal = true := by
  unfold gridPoint? at found
  dsimp only at found
  split at found
  · rename_i below above
    injection found with same
    subst same
    rcases round_quotient_cases _ _ with down | up
    · rw [down]
      exact below
    · rw [up]
      exact above
  · injection found with same
    exact same ▸ (by assumption)
  · injection found with same
    exact same ▸ (by assumption)
  · contradiction

theorem value_pos {number : Binary64} (positive : 0 < number.significand) : 0 < number.value := by
  have significand : (0 : ℚ) < number.significand := by exact_mod_cast positive
  unfold value
  positivity

theorem value_within {number : Binary64} (positive : 0 < number.significand) :
    number.lowerEnd < number.value ∧ number.value < number.upperEnd := by
  have unit : (0 : ℚ) < 2 ^ (number.exponent - 2) := by positivity
  rw [value_eq_quarters, lowerEnd, upperEnd, quarterValue, quarterValue, quarterValue,
    mul_lt_mul_iff_left₀ unit, mul_lt_mul_iff_left₀ unit, Nat.cast_lt, Nat.cast_lt]
  simp only [roundingInterval]
  split <;> omega

theorem le_lower_end_of_not_rounds {number : Binary64} {rational : ℚ}
    (before : rational < number.upperEnd) (outside : ¬number.Rounds rational) :
    rational ≤ number.lowerEnd := by
  by_contra above
  rw [not_le] at above
  apply outside
  unfold Rounds
  split
  · exact ⟨above.le, before.le⟩
  · exact ⟨above, before⟩

theorem upper_end_le_of_not_rounds {number : Binary64} {rational : ℚ}
    (behind : number.lowerEnd < rational) (outside : ¬number.Rounds rational) :
    number.upperEnd ≤ rational := by
  by_contra below
  rw [not_le] at below
  apply outside
  unfold Rounds
  split
  · exact ⟨behind.le, below.le⟩
  · exact ⟨behind, below⟩

theorem not_rounds_of_no_grid_point {number : Binary64} {count : Nat}
    (missing : gridPoint? number count = none) :
    let exponent := decimalOrder number.ratio.1 number.ratio.2 + 1 - count
    let units := inDecimalUnits number.ratio.1 number.ratio.2 exponent
    ¬number.Rounds (Decimal.value ⟨units.1 / units.2, exponent⟩) ∧
      ¬number.Rounds (Decimal.value ⟨units.1 / units.2 + 1, exponent⟩) := by
  unfold gridPoint? at missing
  dsimp only at missing ⊢
  rw [← reads_back_iff, ← reads_back_iff, Bool.not_eq_true, Bool.not_eq_true]
  split at missing
  · contradiction
  · contradiction
  · contradiction
  · rename_i below above
    exact ⟨below, above⟩

/-- On a grid of seventeen digits one of the two points around a number rounds to it: else the
interval would lie between them. -/
theorem grid_point_of_seventeen {number : Binary64} (positive : 0 < number.significand) :
    gridPoint? number 17 ≠ none := by
  intro missing
  obtain ⟨belowOutside, aboveOutside⟩ := not_rounds_of_no_grid_point missing
  have stands : StandsFor (number.ratio.1, number.ratio.2) number.value :=
    number.ratio_stands_for
  have magnitude := value_pos positive
  have numerator : 0 < number.ratio.1 := by
    have denominator : (0 : ℚ) < number.ratio.2 := by exact_mod_cast stands.positive
    have product : (0 : ℚ) < number.ratio.1 := by
      rw [show (number.ratio.1 : ℚ) = _ from stands.eq_mul]
      positivity
    exact_mod_cast product
  have order := pow_decimal_order_le numerator stands
  generalize chosen : decimalOrder number.ratio.1 number.ratio.2 + 1 - (17 : Nat) = exponent at *
  have grid : (0 : ℚ) < 10 ^ exponent := by positivity
  have fine : (10 : ℚ) ^ exponent * 10 ^ 16 ≤ number.value := by
    have sum : exponent + (16 : Nat) = decimalOrder number.ratio.1 number.ratio.2 := by omega
    rw [← zpow_natCast (10 : ℚ) 16, ← zpow_add₀ (by norm_num : (10 : ℚ) ≠ 0), sum]
    exact order
  have wide := grid_lt_interval number positive fine
  have units := in_decimal_units_stand_for stands exponent
  generalize inDecimalUnits number.ratio.1 number.ratio.2 exponent = pair at *
  have denominator : (0 : ℚ) < pair.2 := by exact_mod_cast units.positive
  have atMost : ((pair.1 / pair.2 : Nat) : ℚ) * 10 ^ exponent ≤ number.value := by
    rw [← le_div_iff₀ grid, ← units.quotient, le_div_iff₀ denominator]
    exact_mod_cast Nat.div_mul_le_self pair.1 pair.2
  have beyond : number.value < ((pair.1 / pair.2 + 1 : Nat) : ℚ) * 10 ^ exponent := by
    rw [← div_lt_iff₀ grid, ← units.quotient, div_lt_iff₀ denominator]
    exact_mod_cast Nat.lt_mul_of_div_lt (Nat.lt_succ_self (pair.1 / pair.2)) units.positive
  have within := value_within positive
  have before := le_lower_end_of_not_rounds (atMost.trans_lt within.2) belowOutside
  have behind := upper_end_le_of_not_rounds (within.1.trans beyond) aboveOutside
  push_cast at before behind
  linarith

theorem rounds_shortest {number : Binary64} (positive : 0 < number.significand) :
    number.Rounds number.shortest.value := by
  have nonzero : number.isZero = false := by
    simp only [isZero, beq_eq_false_iff_ne]
    omega
  obtain ⟨decimal, found⟩ : ∃ decimal,
      (List.range 17).findSome? (fun index => gridPoint? number (index + 1)) = some decimal := by
    rw [← Option.ne_none_iff_exists', ne_eq, List.findSome?_eq_none_iff]
    intro missing
    exact grid_point_of_seventeen positive (missing 16 (by decide))
  have chosen : number.shortest = decimal := by
    simp [shortest, nonzero, found]
  obtain ⟨index, -, point⟩ := List.exists_of_findSome?_eq_some found
  rw [chosen, ← reads_back_iff]
  exact reads_back_of_grid_point point

theorem shortest_value_pos {number : Binary64} (positive : 0 < number.significand) :
    0 < number.shortest.value := by
  have rounds := rounds_shortest positive
  have unit : (0 : ℚ) < 2 ^ (number.exponent - 2) := by positivity
  have lower : (0 : ℚ) < number.lowerEnd := by
    have quarters : 0 < (roundingInterval number).lower := by
      simp only [roundingInterval]
      split <;> omega
    have cast : (0 : ℚ) < (roundingInterval number).lower := by exact_mod_cast quarters
    rw [lowerEnd, quarterValue]
    positivity
  unfold Rounds at rounds
  split at rounds <;> linarith [rounds.1]

/-- The shortest decimal of a number has the magnitude of that number only. -/
theorem magnitude_of_shortest {left right : Binary64}
    (same : left.shortest.value = right.shortest.value) :
    left.significand = right.significand ∧ left.exponent = right.exponent := by
  have zeroValue {number : Binary64} (zero : number.significand = 0) :
      number.shortest.value = 0 := by
    simp [shortest, isZero, zero, Decimal.value]
  have zeroExponent {number : Binary64} (zero : number.significand = 0) :
      number.exponent = -1074 := by
    have canonical := number.canonical.2.2.2
    omega
  rcases Nat.eq_zero_or_pos left.significand with leftZero | leftPositive <;>
    rcases Nat.eq_zero_or_pos right.significand with rightZero | rightPositive
  · exact ⟨leftZero.trans rightZero.symm,
      (zeroExponent leftZero).trans (zeroExponent rightZero).symm⟩
  · have positive := shortest_value_pos rightPositive
    rw [← same, zeroValue leftZero] at positive
    exact absurd positive (lt_irrefl 0)
  · have positive := shortest_value_pos leftPositive
    rw [same, zeroValue rightZero] at positive
    exact absurd positive (lt_irrefl 0)
  · apply magnitude_of_rounds (rounds_shortest leftPositive)
    rw [same]
    exact rounds_shortest rightPositive

end Binary64

end SearchKit
