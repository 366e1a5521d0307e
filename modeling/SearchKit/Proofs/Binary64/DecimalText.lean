import Mathlib.Data.List.DropRight
import Mathlib.Data.List.TakeWhile
import SearchKit.Json.Printer
import SearchKit.Proofs.Binary64.ReadingBack

/-!
The text of a decimal and the rational that it writes. Whatever layout is chosen, digits, point and
exponent together give the value of the decimal, and so the text of a binary64 number belongs to
that number only.
-/

namespace SearchKit

set_option autoImplicit false

namespace Decimal

/-! ## The rational that a text writes -/

def digitsValue (digits : List Char) : ℚ := Nat.ofDigitChars 10 digits 0

/-- Digits with at most one point among them. -/
def mantissaValue (text : List Char) : ℚ :=
  let fraction := (text.dropWhile (· != '.')).tail
  digitsValue (text.takeWhile (· != '.') ++ fraction) / 10 ^ fraction.length

/-- The letter of an exponent, its sign and its digits, or nothing. -/
def exponentValue : List Char → Int
  | _ :: '-' :: digits => -Nat.ofDigitChars 10 digits 0
  | _ :: _ :: digits => Nat.ofDigitChars 10 digits 0
  | _ => 0

def textValue (text : List Char) : ℚ :=
  mantissaValue (text.takeWhile (· != 'e')) * 10 ^ exponentValue (text.dropWhile (· != 'e'))

theorem take_drop_until {mark : Char} {before : List Char} (absent : mark ∉ before)
    (after : List Char) :
    (before ++ mark :: after).takeWhile (· != mark) = before ∧
      (before ++ mark :: after).dropWhile (· != mark) = mark :: after := by
  have passed : ∀ character ∈ before, (character != mark) = true := by
    intro character member
    rw [bne_iff_ne]
    exact fun same => absent (same ▸ member)
  rw [List.takeWhile_append_of_pos passed, List.dropWhile_append_of_pos passed]
  simp

theorem take_drop_all {mark : Char} {text : List Char} (absent : mark ∉ text) :
    text.takeWhile (· != mark) = text ∧ text.dropWhile (· != mark) = [] := by
  have passed : ∀ character ∈ text, (character != mark) = true := by
    intro character member
    rw [bne_iff_ne]
    exact fun same => absent (same ▸ member)
  exact ⟨List.takeWhile_eq_self_iff.mpr passed, List.dropWhile_eq_nil_iff.mpr passed⟩

theorem mantissa_value_of_point {whole : List Char} (digits : '.' ∉ whole) (fraction : List Char) :
    mantissaValue (whole ++ '.' :: fraction) =
      digitsValue (whole ++ fraction) / 10 ^ fraction.length := by
  obtain ⟨before, after⟩ := take_drop_until digits fraction
  simp only [mantissaValue, before, after, List.tail_cons]

theorem mantissa_value_of_digits {digits : List Char} (plain : '.' ∉ digits) :
    mantissaValue digits = digitsValue digits := by
  obtain ⟨before, after⟩ := take_drop_all plain
  simp [mantissaValue, before, after]

theorem text_value_of_mantissa {mantissa : List Char} (plain : 'e' ∉ mantissa) :
    textValue mantissa = mantissaValue mantissa := by
  obtain ⟨before, after⟩ := take_drop_all plain
  simp [textValue, before, after, exponentValue]

theorem text_value_of_exponent {mantissa : List Char} (plain : 'e' ∉ mantissa) (order : Int) :
    textValue (mantissa ++ exponentText order) = mantissaValue mantissa * 10 ^ order := by
  have read : exponentValue (exponentText order) = order := by
    unfold exponentText
    split
    · rw [exponentValue, Nat.ofDigitChars_ten_toDigits]
      omega
    · rw [exponentValue, Nat.ofDigitChars_ten_toDigits]
      · omega
      · simp
  obtain ⟨before, after⟩ := take_drop_until plain
    ((if order < 0 then '-' else '+') :: Nat.toDigits 10 order.natAbs)
  have shape : exponentText order =
      'e' :: (if order < 0 then '-' else '+') :: Nat.toDigits 10 order.natAbs := rfl
  rw [textValue, shape, before, after, ← shape, read]

/-! ## Significant digits -/

/-- The digits of a decimal without the zeros at their end. -/
def significant (decimal : Decimal) : List Char :=
  ((Nat.toDigits 10 decimal.digits).reverse.dropWhile (· == '0')).reverse

/-- The power of ten of the first digit. -/
def order (decimal : Decimal) : Int :=
  decimal.exponent + (Nat.toDigits 10 decimal.digits).length - 1

theorem to_digits_eq_significant (decimal : Decimal) :
    ∃ zeros, Nat.toDigits 10 decimal.digits =
      decimal.significant ++ List.replicate zeros '0' := by
  refine ⟨((Nat.toDigits 10 decimal.digits).reverse.takeWhile (· == '0')).length, ?_⟩
  have taken : (Nat.toDigits 10 decimal.digits).reverse.takeWhile (· == '0') =
      List.replicate ((Nat.toDigits 10 decimal.digits).reverse.takeWhile (· == '0')).length '0' := by
    apply List.eq_replicate_of_mem
    intro character member
    have passed := List.mem_takeWhile_imp (p := (· == '0')) member
    simpa using passed
  have whole := List.takeWhile_append_dropWhile (p := (· == '0'))
    (l := (Nat.toDigits 10 decimal.digits).reverse)
  rw [← List.reverse_inj, List.reverse_append, List.reverse_replicate, ← taken, significant,
    List.reverse_reverse, whole]

theorem significant_is_digit (decimal : Decimal) :
    ∀ character ∈ decimal.significant, character.isDigit = true := by
  intro character member
  obtain ⟨zeros, shape⟩ := decimal.to_digits_eq_significant
  apply Nat.isDigit_of_mem_toDigits (b := 10) (n := decimal.digits) (by decide) (by decide)
  rw [shape]
  exact List.mem_append_left _ member

theorem not_mem_of_digits {digits : List Char} {mark : Char} (noDigit : mark.isDigit = false)
    (all : ∀ character ∈ digits, character.isDigit = true) : mark ∉ digits := by
  intro member
  rw [all mark member] at noDigit
  contradiction

theorem digits_value_zeros (digits : List Char) (zeros : Nat) :
    digitsValue (digits ++ List.replicate zeros '0') = digitsValue digits * 10 ^ zeros := by
  rw [digitsValue, digitsValue, Nat.ofDigitChars_append, Nat.ofDigitChars_replicate_zero]
  push_cast
  ring

theorem value_eq_significant (decimal : Decimal) :
    decimal.value =
      digitsValue decimal.significant * 10 ^ (decimal.order + 1 - decimal.significant.length) := by
  obtain ⟨zeros, shape⟩ := decimal.to_digits_eq_significant
  have digits : (decimal.digits : ℚ) = digitsValue decimal.significant * 10 ^ zeros := by
    rw [← digits_value_zeros, ← shape, digitsValue, Nat.ofDigitChars_ten_toDigits]
  have exponent :
      decimal.order + 1 - decimal.significant.length = (zeros : Int) + decimal.exponent := by
    rw [order, shape, List.length_append, List.length_replicate]
    omega
  rw [value, digits, exponent, zpow_add₀ (by norm_num : (10 : ℚ) ≠ 0), zpow_natCast]
  ring

/-! ## The text -/

theorem text_eq_significant (layout : Layout) (decimal : Decimal) :
    decimal.text layout =
      if decimal.significant = [] then ['0', '.', '0']
      else if decimal.order < layout.firstPositional ∨ layout.firstScientific ≤ decimal.order then
        pointAfterFirst decimal.significant ++ exponentText decimal.order
      else if decimal.order < 0 then
        '0' :: '.' ::
          (List.replicate (-decimal.order - 1).toNat '0' ++ decimal.significant)
      else if decimal.significant.length ≤ decimal.order.toNat + 1 then
        decimal.significant
          ++ List.replicate (decimal.order.toNat + 1 - decimal.significant.length) '0'
          ++ ['.', '0']
      else
        decimal.significant.take (decimal.order.toNat + 1)
          ++ '.' :: decimal.significant.drop (decimal.order.toNat + 1) := rfl

theorem mantissa_value_of_point_after_first {digits : List Char} (some : digits ≠ [])
    (all : ∀ character ∈ digits, character.isDigit = true) :
    mantissaValue (pointAfterFirst digits) = digitsValue digits / 10 ^ (digits.length - 1) := by
  have plain : '.' ∉ digits := not_mem_of_digits (by decide) all
  match digits, some with
  | [digit], _ =>
      rw [pointAfterFirst, mantissa_value_of_digits plain]
      simp
  | first :: second :: rest, _ =>
      have single : '.' ∉ [first] := by
        intro member
        exact plain (List.mem_append_left (second :: rest) member)
      rw [pointAfterFirst]
      · exact mantissa_value_of_point single (second :: rest)
      · simp

theorem digits_value_leading_zeros (digits : List Char) (zeros : Nat) :
    digitsValue (List.replicate zeros '0' ++ digits) = digitsValue digits := by
  rw [digitsValue, digitsValue, Nat.ofDigitChars_append, Nat.ofDigitChars_replicate_zero,
    Nat.mul_zero]

theorem significant_eq_nil {decimal : Decimal} (none : decimal.significant = []) :
    decimal.value = 0 := by
  rw [value_eq_significant, none]
  simp [digitsValue]

theorem point_after_first_plain {digits : List Char} {mark : Char} (noPoint : mark ≠ '.')
    (absent : mark ∉ digits) : mark ∉ pointAfterFirst digits := by
  unfold pointAfterFirst
  split
  · exact absent
  · exact absent
  · rename_i digit rest _
    simp only [List.mem_cons, not_or] at absent ⊢
    exact ⟨absent.1, noPoint, absent.2⟩

theorem text_value_of_positional {whole fraction : List Char}
    (digits : ∀ character ∈ whole ++ fraction, character.isDigit = true) :
    textValue (whole ++ '.' :: fraction) =
      digitsValue (whole ++ fraction) / 10 ^ fraction.length := by
  have noPoint : '.' ∉ whole ++ fraction := not_mem_of_digits (by decide) digits
  have noLetter : 'e' ∉ whole ++ fraction := not_mem_of_digits (by decide) digits
  simp only [List.mem_append, not_or] at noPoint noLetter
  have plain : 'e' ∉ whole ++ '.' :: fraction := by
    simp [noLetter.1, noLetter.2]
  rw [text_value_of_mantissa plain, mantissa_value_of_point noPoint.1]

theorem is_digit_of_zeros (zeros : Nat) :
    ∀ character ∈ List.replicate zeros '0', character.isDigit = true := by
  intro character member
  rw [List.eq_of_mem_replicate member]
  rfl

section Layouts

variable {digits : List Char}

theorem text_value_of_scientific (some : digits ≠ [])
    (all : ∀ character ∈ digits, character.isDigit = true) (order : Int) :
    textValue (pointAfterFirst digits ++ exponentText order) =
      digitsValue digits * 10 ^ (order + 1 - digits.length) := by
  have counted : 0 < digits.length := List.length_pos_iff.mpr some
  have plain : 'e' ∉ pointAfterFirst digits :=
    point_after_first_plain (by decide) (not_mem_of_digits (by decide) all)
  have exponent : order + 1 - digits.length = order - ((digits.length - 1 : Nat) : Int) := by
    omega
  rw [text_value_of_exponent plain, mantissa_value_of_point_after_first some all, exponent,
    zpow_sub₀ (by norm_num : (10 : ℚ) ≠ 0), zpow_natCast]
  ring

theorem text_value_of_leading_zeros (zeros : Nat)
    (all : ∀ character ∈ digits, character.isDigit = true) :
    textValue ('0' :: '.' :: (List.replicate zeros '0' ++ digits)) =
      digitsValue digits / 10 ^ (zeros + digits.length) := by
  have fraction := List.forall_mem_append.mpr ⟨is_digit_of_zeros zeros, all⟩
  have value := text_value_of_positional
    (List.forall_mem_append.mpr ⟨is_digit_of_zeros 1, fraction⟩)
  have joined : List.replicate 1 '0' ++ (List.replicate zeros '0' ++ digits) =
      List.replicate (zeros + 1) '0' ++ digits := rfl
  rw [joined, digits_value_leading_zeros, List.length_append, List.length_replicate] at value
  exact value

theorem text_value_of_trailing_zeros (zeros : Nat)
    (all : ∀ character ∈ digits, character.isDigit = true) :
    textValue (digits ++ List.replicate zeros '0' ++ ['.', '0']) =
      digitsValue digits * 10 ^ zeros := by
  have whole := List.forall_mem_append.mpr ⟨all, is_digit_of_zeros zeros⟩
  have value := text_value_of_positional
    (List.forall_mem_append.mpr ⟨whole, is_digit_of_zeros 1⟩)
  have joined : digits ++ List.replicate zeros '0' ++ List.replicate 1 '0' =
      digits ++ List.replicate (zeros + 1) '0' := by
    rw [List.append_assoc, List.replicate_append_replicate]
  have ten : (10 : ℚ) ≠ 0 := by norm_num
  rw [joined, digits_value_zeros, List.length_replicate, pow_succ, pow_one, ← mul_assoc,
    mul_div_cancel_right₀ _ ten] at value
  exact value

theorem text_value_of_point_inside (place : Nat)
    (all : ∀ character ∈ digits, character.isDigit = true) :
    textValue (digits.take place ++ '.' :: digits.drop place) =
      digitsValue digits / 10 ^ (digits.length - place) := by
  have joined := List.take_append_drop place digits
  rw [← joined] at all
  rw [text_value_of_positional all, joined, List.length_drop]

end Layouts

/-- Digits, point and exponent of the text give the value of the decimal in every layout. -/
theorem text_value_of_text (layout : Layout) (decimal : Decimal) :
    textValue (decimal.text layout) = decimal.value := by
  have digits := decimal.significant_is_digit
  rw [text_eq_significant]
  split
  case isTrue none =>
    rw [significant_eq_nil none]
    have zero := text_value_of_trailing_zeros 1 (List.forall_mem_nil (Char.isDigit · = true))
    simpa [digitsValue] using zero
  case isFalse some =>
  have counted : 0 < decimal.significant.length := List.length_pos_iff.mpr some
  rw [value_eq_significant]
  split
  case isTrue scientific => exact text_value_of_scientific some digits decimal.order
  case isFalse positional =>
  -- The exponents are whole numbers where the point moves to the left, natural ones to the right.
  split
  case isTrue small =>
    rw [text_value_of_leading_zeros _ digits, div_eq_mul_inv, ← zpow_natCast, ← zpow_neg]
    congr 2
    omega
  case isFalse whole =>
  split
  case isTrue padded =>
    rw [text_value_of_trailing_zeros _ digits, ← zpow_natCast]
    congr 2
    omega
  case isFalse split =>
    rw [text_value_of_point_inside _ digits, div_eq_mul_inv, ← zpow_natCast, ← zpow_neg]
    congr 2
    omega

/-- The characters behind the first digit of a number. -/
def isNumberMark (character : Char) : Bool :=
  character.isDigit || character ∈ ['.', 'e', '-', '+']

theorem is_number_mark_of_digits {digits : List Char}
    (all : ∀ character ∈ digits, character.isDigit = true) :
    ∀ character ∈ digits, isNumberMark character = true := by
  intro character member
  rw [isNumberMark, all character member, Bool.true_or]

theorem is_number_mark_of_exponent (order : Int) :
    ∀ character ∈ exponentText order, isNumberMark character = true := by
  have digits : ∀ character ∈ Nat.toDigits 10 order.natAbs, character.isDigit = true :=
    fun character => Nat.isDigit_of_mem_toDigits (by decide) (by decide)
  intro character member
  simp only [exponentText, List.mem_cons] at member
  rcases member with rfl | rfl | digit
  · rfl
  · split <;> rfl
  · exact is_number_mark_of_digits digits character digit

theorem text_shape (layout : Layout) (decimal : Decimal) :
    ∃ first rest, decimal.text layout = first :: rest ∧ first.isDigit = true ∧
      (∀ character ∈ rest, isNumberMark character = true) ∧ ('.' ∈ rest ∨ 'e' ∈ rest) := by
  have digits := decimal.significant_is_digit
  rw [text_eq_significant]
  split
  case isTrue none => exact ⟨'0', ['.', '0'], rfl, rfl, by simp [isNumberMark], by decide⟩
  case isFalse some =>
  obtain ⟨first, rest, shape⟩ := List.exists_cons_of_ne_nil some
  rw [shape]
  rw [shape, List.forall_mem_cons] at digits
  have marks := is_number_mark_of_digits digits.2
  have point : isNumberMark '.' = true := rfl
  have zeros (count : Nat) := is_number_mark_of_digits (is_digit_of_zeros count)
  have exponent := is_number_mark_of_exponent decimal.order
  have letter : 'e' ∈ exponentText decimal.order := List.mem_cons_self
  split
  case isTrue scientific =>
    cases rest with
    | nil => exact ⟨first, _, rfl, digits.1, exponent, .inr letter⟩
    | cons second more =>
        refine ⟨first, _, rfl, digits.1, ?_, .inl (by simp)⟩
        exact List.forall_mem_cons.mpr ⟨point, List.forall_mem_append.mpr ⟨marks, exponent⟩⟩
  case isFalse positional =>
  split
  case isTrue small =>
    refine ⟨'0', _, rfl, rfl, List.forall_mem_cons.mpr ⟨point, ?_⟩, .inl (by simp)⟩
    have isFirst : isNumberMark first = true := by
      rw [isNumberMark, digits.1, Bool.true_or]
    exact List.forall_mem_append.mpr ⟨zeros _, List.forall_mem_cons.mpr ⟨isFirst, marks⟩⟩
  case isFalse whole =>
  split
  case isTrue padded =>
    refine ⟨first, _, rfl, digits.1, ?_, .inl (by simp)⟩
    exact List.forall_mem_append.mpr ⟨List.forall_mem_append.mpr ⟨marks, zeros _⟩,
      by simp [isNumberMark]⟩
  case isFalse split =>
    refine ⟨first, _, rfl, digits.1, ?_, .inl (by simp)⟩
    refine List.forall_mem_append.mpr ⟨?_, List.forall_mem_cons.mpr ⟨point, ?_⟩⟩
    · exact fun character member => marks character (List.mem_of_mem_take member)
    · exact fun character member => marks character (List.mem_of_mem_drop member)

end Decimal

end SearchKit
