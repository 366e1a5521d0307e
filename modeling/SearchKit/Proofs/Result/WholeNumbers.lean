import Mathlib.Data.List.Forall2
import SearchKit.Proofs.Binary64.ReadingBack
import SearchKit.Proofs.Json.Unambiguous
import SearchKit.Result.Hits

/-!
The normal form of numbers. Every number of a value keeps its place and what it is as a rational,
and one that can be written as an integer is written so. Two values have the same normal form
exactly when they differ in nothing but the writing of such numbers.
-/

namespace SearchKit

set_option autoImplicit false

/-! ## Floating point numbers that are integers -/

theorem StandsFor.eq_nat_iff {pair : Nat × Nat} {value : ℚ} (stands : StandsFor pair value)
    (magnitude : Nat) : value = magnitude ↔ pair.1 = magnitude * pair.2 := by
  have nonzero : (pair.2 : ℚ) ≠ 0 := by exact_mod_cast stands.positive.ne'
  rw [← mul_left_inj' nonzero, ← stands.eq_mul]
  norm_cast

namespace Binary64

/-- The rational that a number is. Both zeros are the rational zero. -/
def signedValue (number : Binary64) : ℚ := if number.negative then -number.value else number.value

theorem eq_int_iff_eq_nat {rational : ℚ} (nonnegative : 0 ≤ rational) (whole : Int) :
    rational = whole ↔ ∃ magnitude : Nat, rational = magnitude ∧ whole = magnitude := by
  constructor
  · rintro rfl
    obtain ⟨magnitude, rfl⟩ := Int.eq_ofNat_of_zero_le (by exact_mod_cast nonnegative)
    exact ⟨magnitude, Int.cast_natCast magnitude, rfl⟩
  · rintro ⟨magnitude, same, rfl⟩
    rw [same, Int.cast_natCast]

theorem signed_value_eq_iff (number : Binary64) (whole : Int) :
    number.signedValue = whole ↔ ∃ magnitude : Nat, number.value = magnitude ∧
      whole = if number.negative then -(magnitude : Int) else magnitude := by
  have nonnegative : 0 ≤ number.value := by
    unfold value
    positivity
  unfold signedValue
  split
  · have negated : -number.value = whole ↔ number.value = (-whole : Int) := by
      rw [Int.cast_neg, neg_eq_iff_eq_neg]
    simp only [negated, eq_int_iff_eq_nat nonnegative, neg_eq_iff_eq_neg]
  · exact eq_int_iff_eq_nat nonnegative whole

theorem integral_eq_some_iff (number : Binary64) (whole : Int) :
    number.integral? = some whole ↔ number.signedValue = whole := by
  have stands := number.ratio_stands_for
  rw [signed_value_eq_iff]
  simp only [stands.eq_nat_iff, integral?]
  constructor
  · intro found
    split at found
    · rename_i divides
      injection found with same
      exact ⟨_, (Nat.div_mul_cancel (Nat.dvd_of_mod_eq_zero divides)).symm, same.symm⟩
    · contradiction
  · rintro ⟨magnitude, multiple, rfl⟩
    have divides : number.ratio.1 % number.ratio.2 = 0 := by rw [multiple, Nat.mul_mod_left]
    have quotient : number.ratio.1 / number.ratio.2 = magnitude := by
      rw [multiple, Nat.mul_div_cancel _ stands.positive]
    rw [if_pos divides, quotient]

end Binary64

namespace Json

/-! ## Numbers -/

namespace Number

def value : Number → ℚ
  | .integer value _ => value
  | .float value => value.signedValue

/-- An integer of a magnitude at which floats are brought to integers. -/
def IsWhole (number : Number) : Prop :=
  (∃ whole : Int, number.value = whole) ∧ |number.value| < 9.2e18

/-- What a number becomes. Its value stays, floats that could be integers are gone, and whatever is
no such float stays as it is. -/
structure Normalizes (given written : Number) : Prop where
  value_kept : written.value = given.value
  no_whole_float : ∀ float, written = .float float → ¬written.IsWhole
  integer_kept : ∀ value inRange, given = .integer value inRange → written = given
  other_float_kept : ∀ float, given = .float float → ¬given.IsWhole → written = given

/-- The same number, or two writings of an integer that has both. -/
def WrittenAlike (left right : Number) : Prop :=
  left = right ∨ left.IsWhole ∧ left.value = right.value

theorem abs_lt_iff_nat_abs_lt (whole : Int) :
    |(whole : ℚ)| < 9.2e18 ↔ whole.natAbs < wholeBound := by
  have bound : (9.2e18 : ℚ) = ((wholeBound : Nat) : ℚ) := by norm_num [wholeBound]
  rw [bound, ← Int.cast_abs, ← Int.natCast_natAbs, Int.cast_natCast, Nat.cast_lt]

theorem whole_of_is_whole {number : Number} {whole : Int} (same : number.value = whole)
    (small : |number.value| < 9.2e18) : ∃ inRange, number.whole = .integer whole inRange := by
  cases number with
  | integer value inRange =>
      obtain rfl : value = whole := Int.cast_injective same
      exact ⟨inRange, rfl⟩
  | float value =>
      have integral : value.integral? = some whole := (value.integral_eq_some_iff whole).mpr same
      rw [same, abs_lt_iff_nat_abs_lt] at small
      have bound : wholeBound = 9200000000000000000 := rfl
      refine ⟨by omega, ?_⟩
      simp [Number.whole, integral, small]

theorem whole_of_not_is_whole {number : Number} (other : ¬number.IsWhole) :
    number.whole = number := by
  cases number with
  | integer value inRange => rfl
  | float value =>
      cases found : value.integral? with
      | none => simp [Number.whole, found]
      | some whole =>
          have same : (Number.float value).value = whole :=
            (value.integral_eq_some_iff whole).mp found
          have large : ¬whole.natAbs < wholeBound := by
            rw [← abs_lt_iff_nat_abs_lt, ← same]
            exact fun small => other ⟨⟨whole, same⟩, small⟩
          simp [Number.whole, found, large]

theorem normalizes_whole (number : Number) : number.Normalizes number.whole := by
  by_cases whole : number.IsWhole
  · obtain ⟨⟨exact, same⟩, small⟩ := whole
    obtain ⟨inRange, written⟩ := whole_of_is_whole same small
    constructor
    · rw [written, same]
      rfl
    · intro float isFloat
      rw [written] at isFloat
      contradiction
    · rintro value _ rfl
      rfl
    · intro _ _ other
      exact absurd ⟨⟨exact, same⟩, small⟩ other
  · rw [whole_of_not_is_whole whole]
    exact ⟨rfl, fun _ _ => whole, fun _ _ _ => rfl, fun _ _ _ => rfl⟩

theorem whole_eq_iff (given written : Number) :
    given.whole = written ↔ given.Normalizes written := by
  constructor
  · rintro rfl
    exact given.normalizes_whole
  · intro normalizes
    by_cases whole : given.IsWhole
    · have kept := normalizes.value_kept
      obtain ⟨⟨exact, same⟩, small⟩ := whole
      obtain ⟨inRange, wholeGiven⟩ := whole_of_is_whole same small
      -- A float of this value would be one that could be an integer, so it is that integer.
      cases written with
      | float float =>
          refine absurd ?_ (normalizes.no_whole_float float rfl)
          exact ⟨⟨exact, kept.trans same⟩, kept ▸ small⟩
      | integer value _ =>
          obtain rfl : value = exact := Int.cast_injective (kept.trans same)
          exact wholeGiven
    · rw [whole_of_not_is_whole whole]
      cases given with
      | integer value inRange => exact (normalizes.integer_kept value inRange rfl).symm
      | float float => exact (normalizes.other_float_kept float rfl whole).symm

theorem whole_eq_whole_iff (left right : Number) :
    left.whole = right.whole ↔ left.WrittenAlike right := by
  constructor
  · intro same
    have values : left.value = right.value := by
      rw [← left.normalizes_whole.value_kept, same, right.normalizes_whole.value_kept]
    by_cases whole : left.IsWhole
    · exact .inr ⟨whole, values⟩
    · have other : ¬right.IsWhole := by rwa [IsWhole, ← values]
      rw [whole_of_not_is_whole whole, whole_of_not_is_whole other] at same
      exact .inl same
  · rintro (rfl | ⟨⟨⟨exact, same⟩, small⟩, values⟩)
    · rfl
    · obtain ⟨_, wholeLeft⟩ := whole_of_is_whole same small
      obtain ⟨_, wholeRight⟩ := whole_of_is_whole (values ▸ same) (values ▸ small)
      rw [wholeLeft, wholeRight]

theorem whole_whole (number : Number) : number.whole.whole = number.whole := by
  have normal := number.normalizes_whole
  cases written : number.whole with
  | integer value inRange => rfl
  | float float => exact whole_of_not_is_whole (written ▸ normal.no_whole_float float written)

end Number

/-! ## Values -/

/-- Two values of the same shape, in which the numbers at each place are related. Arrays are as long
as each other, objects have the same names in the same order, and all else is equal. -/
@[mk_iff]
inductive Leafwise (relates : Number → Number → Prop) : Json → Json → Prop
  | null : Leafwise relates .null .null
  | bool (value : Bool) : Leafwise relates (.bool value) (.bool value)
  | string (text : String) : Leafwise relates (.string text) (.string text)
  | number {left right : Number} (related : relates left right) :
      Leafwise relates (.number left) (.number right)
  | array {left right : List Json} (each : List.Forall₂ (Leafwise relates) left right) :
      Leafwise relates (.array left) (.array right)
  | object {left right : Entries Json} (names : left.names = right.names)
      (each : List.Forall₂ (fun member other => Leafwise relates member.2 other.2) left right) :
      Leafwise relates (.object left) (.object right)

/-- A change of values that changes the numbers in their places and nothing else. -/
structure ChangesNumbers (change : Json → Json) (numbers : Number → Number) : Prop where
  null : change .null = .null
  bool : ∀ value, change (.bool value) = .bool value
  string : ∀ text, change (.string text) = .string text
  number : ∀ value, change (.number value) = .number (numbers value)
  array : ∀ items, change (.array items) = .array (items.map change)
  object : ∀ members, change (.object members) =
    .object (members.map fun member => (member.1, change member.2))

theorem changes_numbers_id : ChangesNumbers id id where
  null := rfl
  bool _ := rfl
  string _ := rfl
  number _ := rfl
  array items := by rw [List.map_id, id]
  object members := congrArg Json.object (List.map_id members).symm

theorem changes_numbers_whole : ChangesNumbers wholeNumbers Number.whole where
  null := by rw [wholeNumbers]
  bool _ := by rw [wholeNumbers]
  string _ := by rw [wholeNumbers]
  number _ := by rw [wholeNumbers]
  array items := by
    rw [wholeNumbers]
    congr 1
    induction items with
    | nil => rfl
    | cons item rest ih => rw [wholeNumbersItems, ih, List.map_cons]
  object members := by
    rw [wholeNumbers]
    congr 1
    induction members with
    | nil => rfl
    | cons member rest ih => rw [wholeNumbersMembers, ih, List.map_cons]

section Changes

variable {relates : Number → Number → Prop} {change other : Json → Json}

theorem map_items_eq_iff {left right : List Json}
    (each : ∀ item ∈ left, ∀ json, change item = other json ↔ Leafwise relates item json) :
    left.map change = right.map other ↔ List.Forall₂ (Leafwise relates) left right := by
  induction left generalizing right with
  | nil => cases right <;> simp
  | cons item rest ih =>
      rw [List.forall_mem_cons] at each
      cases right with
      | nil => simp
      | cons json further => simp [each.1, ih each.2]

theorem map_members_eq_iff {left right : Entries Json}
    (each : ∀ member ∈ left, ∀ json,
      change member.2 = other json ↔ Leafwise relates member.2 json) :
    (left.map fun member => (member.1, change member.2)) =
        (right.map fun member => (member.1, other member.2)) ↔
      left.names = right.names ∧
        List.Forall₂ (fun member json => Leafwise relates member.2 json.2) left right := by
  induction left generalizing right with
  | nil => cases right <;> simp [Entries.names]
  | cons member rest ih =>
      rw [List.forall_mem_cons] at each
      cases right with
      | nil => simp [Entries.names]
      | cons json further =>
          have later := @ih further each.2
          simp only [Entries.names] at later ⊢
          simp only [List.map_cons, List.cons.injEq, Prod.mk.injEq, each.1, later,
            List.forall₂_cons]
          tauto

/-- Two changes meet in one value exactly when they meet in each number. -/
theorem change_eq_change_iff {numbers otherNumbers : Number → Number}
    (changes : ChangesNumbers change numbers) (changesOther : ChangesNumbers other otherNumbers)
    (meet : ∀ number json, numbers number = otherNumbers json ↔ relates number json)
    (left right : Json) : change left = other right ↔ Leafwise relates left right := by
  have ofNull := changesOther.null
  have ofBool := changesOther.bool
  have ofString := changesOther.string
  have ofNumber := changesOther.number
  have ofArray := changesOther.array
  have ofObject := changesOther.object
  induction left using inside_induction generalizing right with
  | null =>
      rw [changes.null, leafwise_iff]
      cases right <;> simp [ofNull, ofBool, ofString, ofNumber, ofArray, ofObject]
  | bool value =>
      rw [changes.bool, leafwise_iff]
      cases right <;> simp [ofNull, ofBool, ofString, ofNumber, ofArray, ofObject, eq_comm]
  | string text =>
      rw [changes.string, leafwise_iff]
      cases right <;> simp [ofNull, ofBool, ofString, ofNumber, ofArray, ofObject, eq_comm]
  | number value =>
      rw [changes.number, leafwise_iff]
      cases right <;> simp [ofNull, ofBool, ofString, ofNumber, ofArray, ofObject, meet]
  | array items ih =>
      rw [changes.array, leafwise_iff]
      cases right <;>
        simp [ofNull, ofBool, ofString, ofNumber, ofArray, ofObject, map_items_eq_iff ih]
  | object members ih =>
      rw [changes.object, leafwise_iff]
      cases right <;>
        simp [ofNull, ofBool, ofString, ofNumber, ofArray, ofObject, map_members_eq_iff ih]

theorem ChangesNumbers.eq {numbers : Number → Number} (changes : ChangesNumbers change numbers)
    (changesOther : ChangesNumbers other numbers) (json : Json) : change json = other json := by
  have itself : Leafwise (fun left right => numbers left = numbers right) json json :=
    (change_eq_change_iff changes changes (fun _ _ => Iff.rfl) json json).mp rfl
  exact (change_eq_change_iff changes changesOther (fun _ _ => Iff.rfl) json json).mpr itself

end Changes

theorem changes_numbers_twice :
    ChangesNumbers (fun json => json.wholeNumbers.wholeNumbers) Number.whole where
  null := by rw [changes_numbers_whole.null, changes_numbers_whole.null]
  bool _ := by rw [changes_numbers_whole.bool, changes_numbers_whole.bool]
  string _ := by rw [changes_numbers_whole.string, changes_numbers_whole.string]
  number value := by
    rw [changes_numbers_whole.number, changes_numbers_whole.number, value.whole_whole]
  array items := by
    rw [changes_numbers_whole.array, changes_numbers_whole.array, List.map_map]
    rfl
  object members := by
    rw [changes_numbers_whole.object, changes_numbers_whole.object, List.map_map]
    rfl

theorem whole_numbers_eq_iff (given written : Json) :
    given.wholeNumbers = written ↔ Leafwise Number.Normalizes given written :=
  change_eq_change_iff changes_numbers_whole changes_numbers_id Number.whole_eq_iff given written

/-- The form with whole numbers is the value of the same shape in which each number keeps its value
and is an integer where it can be. It is its own form, and two values share it exactly when they
differ in nothing but the writing of integers below `9.2e18`. -/
theorem whole_numbers_are_a_normal_form :
    (∀ given written : Json,
      given.wholeNumbers = written ↔ Leafwise Number.Normalizes given written) ∧
    (∀ json : Json, json.wholeNumbers.wholeNumbers = json.wholeNumbers) ∧
    ∀ left right : Json,
      left.wholeNumbers = right.wholeNumbers ↔ Leafwise Number.WrittenAlike left right :=
  ⟨whole_numbers_eq_iff, changes_numbers_twice.eq changes_numbers_whole,
    change_eq_change_iff changes_numbers_whole changes_numbers_whole Number.whole_eq_whole_iff⟩

/-- Minus zero, minus five and five and a half. -/
example :
    wholeNumbers (.array [.number (.float (.zero true)),
      .number (.float ⟨true, 0x14000000000000, -50, by decide⟩),
      .number (.float ⟨false, 0x16000000000000, -50, by decide⟩)]) =
    .array [.number (.integer 0 (by decide)), .number (.integer (-5) (by decide)),
      .number (.float ⟨false, 0x16000000000000, -50, by decide⟩)] := by
  decide +kernel

end Json

end SearchKit
