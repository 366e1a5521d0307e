import Mathlib.Algebra.Order.Floor.Div
import SearchKit.Request.Page

/-!
Pages that are asked for by number and size: where they start, and how many of them hold all hits.
Both counts are made in words, and none of the steps on the way leaves its word.
-/

namespace SearchKit

set_option autoImplicit false

/-! ## Counts -/

namespace PageCount

theorem of_int_of_pos {value : Int} (positive : 0 < value) :
    ∃ count, ofInt? value = some count ∧ count.toNat = min value.toNat 0xFFFFFFFF := by
  obtain ⟨count, made⟩ : ∃ count, ofInt? value = some count := by
    simp [ofInt?, positive]
  exact ⟨count, made, toNat_ofInt made⟩

theorem of_int_of_nonpos {value : Int} (nonpos : value ≤ 0) : ofInt? value = none :=
  dif_neg (Int.not_lt.mpr nonpos)

theorem of_int_of_bounds {value : Nat} (positive : 1 ≤ value) (bounded : value < 2 ^ 32) :
    ∃ count, ofInt? value = some count ∧ count.toNat = value := by
  have above : (0 : Int) < value := by omega
  obtain ⟨count, made, capped⟩ := of_int_of_pos above
  refine ⟨count, made, ?_⟩
  rw [capped, Int.toNat_natCast]
  omega

theorem sub_one_fits (count : PageCount) : count.word.toBitVec.usubOverflow 1 = false := by
  have positive := count.toNat_pos
  apply decide_eq_false
  change ¬count.toNat < 1
  omega

end PageCount

theorem mul_fits (left right : UInt32) :
    left.toUInt64.toBitVec.umulOverflow right.toUInt64.toBitVec = false := by
  have leftBound := left.toNat_lt
  have rightBound := right.toNat_lt
  have fits : left.toNat * right.toNat < 2 ^ 64 :=
    calc left.toNat * right.toNat
        ≤ 2 ^ 32 * right.toNat := Nat.mul_le_mul_right _ (by omega)
      _ < 2 ^ 32 * 2 ^ 32 := by omega
      _ = 2 ^ 64 := by decide
  simpa [BitVec.umulOverflow] using fits

/-! ## Pages -/

namespace Page

theorem of_numbers_of_bounds {number size : Nat} (first : 1 ≤ number) (last : number < 2 ^ 32)
    (positive : 1 ≤ size) (bounded : size < 2 ^ 32) :
    ∃ numberCount sizeCount,
      ofNumbers (some number) (some size) = ⟨true, some numberCount, sizeCount, none⟩ ∧
        numberCount.toNat = number ∧ sizeCount.toNat = size := by
  obtain ⟨numberCount, numberMade, numberEq⟩ := PageCount.of_int_of_bounds first last
  obtain ⟨sizeCount, sizeMade, sizeEq⟩ := PageCount.of_int_of_bounds positive bounded
  exact ⟨numberCount, sizeCount, by simp [ofNumbers, sizeOf, numberMade, sizeMade], numberEq,
    sizeEq⟩

theorem to_nat_start (page : Page) : page.start.toNat = page.offset := by
  unfold start offset
  cases page.number with
  | none => rfl
  | some number =>
      have difference : (number.word - 1).toNat = number.toNat - 1 :=
        BitVec.toNat_sub_of_not_usubOverflow (ne_true_of_eq_false number.sub_one_fits)
      calc ((number.word - 1).toUInt64 * page.size.word.toUInt64).toNat
          = (number.word - 1).toUInt64.toNat * page.size.word.toUInt64.toNat :=
            BitVec.toNat_mul_of_not_umulOverflow (ne_true_of_eq_false (mul_fits _ _))
        _ = (number.toNat - 1) * page.size.toNat := by
            rw [UInt32.toNat_toUInt64, UInt32.toNat_toUInt64, difference, ← PageCount.toNat]

theorem start_eq (page : Page) : page.start = UInt64.ofNatLT page.offset page.offset_lt := by
  rw [← UInt64.toNat_inj, to_nat_start, UInt64.toNat_ofNatLT]

theorem pages_for_eq_ceil_div (page : Page) (total : UInt64) :
    page.pagesFor total = total.toNat ⌈/⌉ page.size.toNat := by
  rw [pagesFor, Nat.ceilDiv_eq_add_pred_div]

theorem pages_for_eq (page : Page) (total : UInt64) :
    page.pagesFor total =
      if total.toNat % page.size.toNat = 0 then total.toNat / page.size.toNat
      else total.toNat / page.size.toNat + 1 := by
  have positive := page.size.toNat_pos
  have parts := Nat.div_add_mod' total.toNat page.size.toNat
  have left := Nat.mod_lt total.toNat positive
  have further (count : Nat) : (count + 1) * page.size.toNat =
      count * page.size.toNat + page.size.toNat := Nat.succ_mul count page.size.toNat
  unfold pagesFor
  split
  case isTrue none =>
    apply Nat.div_eq_of_lt_le
    · omega
    · rw [further]
      omega
  case isFalse some =>
    apply Nat.div_eq_of_lt_le
    · rw [further]
      omega
    · rw [further, further]
      omega

theorem size_ne_zero (page : Page) : page.size.word.toUInt64 ≠ 0 := by
  intro zero
  have positive := page.size.toNat_pos
  have same := congrArg UInt64.toNat zero
  rw [UInt32.toNat_toUInt64] at same
  exact absurd same (Nat.ne_of_gt positive)

theorem to_nat_pages (page : Page) (total : UInt64) :
    (page.pages total).toNat = page.pagesFor total := by
  have bounded := page.pagesFor_lt total
  have filled : (total / page.size.word.toUInt64).toNat = total.toNat / page.size.toNat := by
    rw [UInt64.toNat_div, UInt32.toNat_toUInt64, PageCount.toNat]
  have left : total % page.size.word.toUInt64 = 0 ↔ total.toNat % page.size.toNat = 0 := by
    rw [← UInt64.toNat_inj, UInt64.toNat_mod, UInt32.toNat_toUInt64, UInt64.toNat_zero,
      PageCount.toNat]
  rw [pages_for_eq] at bounded ⊢
  simp only [pages, left]
  split
  case isTrue none => exact filled
  case isFalse some =>
    -- One page more is still at most the total, so that the sum stays below the next word.
    rw [if_neg some] at bounded
    rw [UInt64.toNat_add, filled]
    exact Nat.mod_eq_of_lt bounded

theorem is_least_pages (page : Page) (total : UInt64) :
    IsLeast {count : Nat | total.toNat ≤ count * page.size.toNat} (page.pages total).toNat := by
  have least := (gc_mul_ceilDiv page.size.toNat_pos).isLeast_l (a := total.toNat)
  rw [to_nat_pages, pages_for_eq_ceil_div]
  simpa only [Nat.mul_comm] using least

end Page

/-- Pages of one size, one after another, are the front of the list up to the end of the last. -/
theorem take_pages {α : Type} (hits : List α) (size count : Nat) :
    (List.range' 1 count).flatMap (fun number => (hits.drop ((number - 1) * size)).take size) =
      hits.take (count * size) := by
  induction count with
  | zero => simp
  | succ count ih =>
      rw [List.range'_1_concat, List.flatMap_append, ih, Nat.succ_mul, List.take_add]
      simp

end SearchKit
