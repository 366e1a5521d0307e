import SearchKit.Json.Printer
import SearchKit.Json.Reader
import SearchKit.Proofs.Binary64.DecimalText

/-!
Numbers through their JSON text. The digits of an integer that fits 64 bits are read back as that
integer, when nothing follows that would go on with it. No two numbers have one text, floating point
ones included.
-/

namespace SearchKit.Json

open Text (digitValue? isDigit)

set_option autoImplicit false

/-! ## Reading integers -/

/-- What follows a number and does not go on with it. -/
def EndsNumber : List Char → Prop
  | [] => True
  | next :: _ => isDigit next = false ∧ next ≠ '.' ∧ next ≠ 'e' ∧ next ≠ 'E'

theorem digit_value_of_is_digit {character : Char} (digit : character.isDigit = true) :
    digitValue? character = some (character.toNat - '0'.toNat) := by
  simp only [Char.isDigit, Bool.and_eq_true, decide_eq_true_eq, ge_iff_le] at digit
  exact if_pos digit

theorem digit_value_of_digit_char {digit : Nat} (small : digit < 10) :
    digitValue? (Nat.digitChar digit) = some digit := by
  have all : ∀ value ∈ List.range 10, digitValue? (Nat.digitChar value) = some value := by decide
  exact all digit (List.mem_range.mpr small)

theorem drop_digits_of_ends {left : List Char} (ends : EndsNumber left) :
    left.dropWhile isDigit = left := by
  cases left with
  | nil => rfl
  | cons next rest => simp [ends.1]

theorem count_digits_of_ends {left : List Char} (ends : EndsNumber left) :
    (left.takeWhile isDigit).length = 0 := by
  cases left with
  | nil => rfl
  | cons next rest => simp [ends.1]

theorem le_of_digit_chars (digits : List Char) (value : Nat) :
    value ≤ Nat.ofDigitChars 10 digits value := by
  induction digits generalizing value with
  | nil => simp
  | cons digit rest ih =>
      rw [Nat.ofDigitChars_cons]
      have further := ih (10 * value + (digit.toNat - '0'.toNat))
      omega

/-- All digits are taken as long as their number fits 64 bits. -/
theorem take_digits_of_digits {digits left : List Char} (significand count : Nat)
    (all : ∀ character ∈ digits, character.isDigit = true) (ends : EndsNumber left)
    (small : Nat.ofDigitChars 10 digits significand < 0x10000000000000000) :
    takeDigits significand count (digits ++ left) =
      (Nat.ofDigitChars 10 digits significand, count + digits.length, left) := by
  induction digits generalizing significand count with
  | nil =>
      cases left with
      | nil => simp [takeDigits]
      | cons next rest =>
          have none : digitValue? next = none := by simpa [isDigit] using ends.1
          simp [takeDigits, none]
  | cons digit rest ih =>
      rw [Nat.ofDigitChars_cons, Nat.mul_comm] at small
      have fits := le_of_digit_chars rest (significand * 10 + (digit.toNat - '0'.toNat))
      have room : ¬0x10000000000000000 ≤ significand * 10 + (digit.toNat - '0'.toNat) := by omega
      have further := ih _ (count + 1)
        (fun character member => all character (List.mem_cons_of_mem _ member)) small
      simp only [List.cons_append, takeDigits, digit_value_of_is_digit (all digit (by simp)),
        if_neg room, further, Nat.ofDigitChars_cons, List.length_cons, Nat.mul_comm 10,
        Nat.add_assoc, Nat.add_comm 1]

theorem leading_digit {value : Nat} (positive : 0 < value) :
    ∃ first more digit, Nat.toDigits 10 value = first :: more ∧
      digitValue? first = some digit ∧ digit ≠ 0 := by
  induction value using Nat.strongRecOn with
  | ind value ih =>
      by_cases small : value < 10
      · exact ⟨_, _, value, Nat.toDigits_of_lt_base small, digit_value_of_digit_char small,
          by omega⟩
      · obtain ⟨first, more, digit, shape, isFirst, nonzero⟩ :=
          ih (value / 10) (by omega) (by omega)
        rw [Nat.toDigits_of_base_le (by decide) (by omega), shape]
        exact ⟨first, _, digit, rfl, isFirst, nonzero⟩

theorem read_after_whole_of_ends (negative : Bool) (value : Nat) {left : List Char}
    (ends : EndsNumber left) :
    readAfterWhole negative value 0 left = finishInteger negative value left := by
  unfold readAfterWhole
  split
  · exact absurd rfl ends.2.1
  · exact absurd rfl ends.2.2.1
  · exact absurd rfl ends.2.2.2
  · rfl

theorem read_number_of_digits (negative : Bool) {value : Nat} (small : value < 0x10000000000000000)
    {left : List Char} (ends : EndsNumber left) :
    readNumber negative (Nat.toDigits 10 value ++ left) = finishInteger negative value left := by
  -- Zero is apart: a zero in front of further digits is refused, so it is read without any.
  rcases Nat.eq_zero_or_pos value with rfl | positive
  · have zero : digitValue? '0' = some 0 := by decide
    have shape : Nat.toDigits 10 0 = ['0'] := rfl
    rw [shape, List.singleton_append, ← read_after_whole_of_ends negative 0 ends]
    unfold readNumber
    cases left with
    | nil => simp [zero]
    | cons next rest => simp [zero, ends.1]
  · obtain ⟨first, more, digit, shape, isFirst, nonzero⟩ := leading_digit positive
    have isDigit : ∀ character ∈ first :: more, character.isDigit = true := by
      intro character member
      rw [← shape] at member
      exact Nat.isDigit_of_mem_toDigits (by decide) (by decide) member
    have valued : Nat.ofDigitChars 10 more digit = value := by
      have whole := Nat.ofDigitChars_ten_toDigits (n := value)
      have firstValue := digit_value_of_is_digit (isDigit first (by simp))
      rw [isFirst] at firstValue
      injection firstValue with same
      rw [shape, Nat.ofDigitChars_cons, ← same] at whole
      simpa using whole
    have taken := take_digits_of_digits digit 0
      (fun character member => isDigit character (List.mem_cons_of_mem _ member)) ends
      (by rw [valued]; exact small)
    rw [valued] at taken
    rw [shape, List.cons_append]
    unfold readNumber
    simp only [isFirst, taken, count_digits_of_ends ends, drop_digits_of_ends ends]
    exact read_after_whole_of_ends negative value ends

/-! ## Texts of numbers -/

namespace Number

open Decimal (isNumberMark)

theorem digit_is_number_mark {character : Char} (digit : character.isDigit = true) :
    isNumberMark character = true := by
  rw [isNumberMark, digit, Bool.true_or]

theorem digits_of_nat (value : Nat) :
    ∃ first rest, Nat.toDigits 10 value = first :: rest ∧
      ∀ character ∈ first :: rest, character.isDigit = true := by
  obtain ⟨first, rest, shape⟩ :=
    List.exists_cons_of_ne_nil (Nat.toDigits_ne_nil (b := 10) (n := value))
  refine ⟨first, rest, shape, ?_⟩
  intro character member
  rw [← shape] at member
  exact Nat.isDigit_of_mem_toDigits (by decide) (by decide) member

theorem chars_shape (number : Number) :
    ∃ first rest, number.chars = first :: rest ∧ (first.isDigit = true ∨ first = '-') ∧
      ∀ character ∈ number.chars, isNumberMark character = true := by
  have sign : isNumberMark '-' = true := rfl
  cases number with
  | integer value inRange =>
      obtain ⟨first, rest, shape, digits⟩ := digits_of_nat value.natAbs
      have marks := Decimal.is_number_mark_of_digits digits
      rw [chars, integerChars, shape]
      split
      · exact ⟨'-', _, rfl, .inr rfl, List.forall_mem_cons.mpr ⟨sign, marks⟩⟩
      · exact ⟨first, rest, rfl, .inl (digits first List.mem_cons_self), marks⟩
  | float value =>
      obtain ⟨first, rest, shape, digit, marks, -⟩ := value.shortest.text_shape numberLayout
      have all : ∀ character ∈ first :: rest, isNumberMark character = true :=
        List.forall_mem_cons.mpr ⟨digit_is_number_mark digit, marks⟩
      rw [chars, floatChars, shape]
      split
      · exact ⟨'-', _, rfl, .inr rfl, List.forall_mem_cons.mpr ⟨sign, all⟩⟩
      · exact ⟨first, rest, rfl, .inl digit, all⟩

/-- A sign in front of digits is told from the digits by the first character. -/
theorem signed_eq_signed {left right : Bool} {first second : Char} {rest further : List Char}
    (isFirst : first.isDigit = true) (isSecond : second.isDigit = true)
    (same : (if left then ['-'] else []) ++ first :: rest =
      (if right then ['-'] else []) ++ second :: further) :
    left = right ∧ first :: rest = second :: further := by
  have noSign {digit : Char} (isDigit : digit.isDigit = true) : digit ≠ '-' := by
    rintro rfl
    exact absurd isDigit (by decide)
  cases left <;> cases right
  · exact ⟨rfl, same⟩
  · injection same with head
    exact absurd head (noSign isFirst)
  · injection same with head
    exact absurd head.symm (noSign isSecond)
  · injection same with head tail
    exact ⟨rfl, tail⟩

theorem integer_chars_eq_signed (value : Int) :
    integerChars value =
      (if decide (value < 0) then ['-'] else []) ++ Nat.toDigits 10 value.natAbs := by
  by_cases negative : value < 0 <;> simp [integerChars, negative]

theorem integer_chars_injective {left right : Int}
    (same : integerChars left = integerChars right) : left = right := by
  obtain ⟨first, rest, leftDigits, isFirst⟩ := digits_of_nat left.natAbs
  obtain ⟨second, further, rightDigits, isSecond⟩ := digits_of_nat right.natAbs
  rw [integer_chars_eq_signed, integer_chars_eq_signed, leftDigits, rightDigits] at same
  obtain ⟨sameSign, sameDigits⟩ := signed_eq_signed (isFirst first List.mem_cons_self)
    (isSecond second List.mem_cons_self) same
  have magnitude : left.natAbs = right.natAbs := by
    calc left.natAbs = Nat.ofDigitChars 10 (Nat.toDigits 10 left.natAbs) 0 :=
          Nat.ofDigitChars_ten_toDigits.symm
      _ = Nat.ofDigitChars 10 (Nat.toDigits 10 right.natAbs) 0 := by
          rw [leftDigits, rightDigits, sameDigits]
      _ = right.natAbs := Nat.ofDigitChars_ten_toDigits
  rw [decide_eq_decide] at sameSign
  omega

/-- The shortest decimal tells one magnitude from all others, and the sign is written. -/
theorem float_chars_injective {left right : Binary64}
    (same : floatChars left = floatChars right) : left = right := by
  obtain ⟨first, rest, leftText, isFirst, -⟩ := left.shortest.text_shape numberLayout
  obtain ⟨second, further, rightText, isSecond, -⟩ := right.shortest.text_shape numberLayout
  rw [floatChars, floatChars, leftText, rightText] at same
  obtain ⟨sameSign, sameText⟩ := signed_eq_signed isFirst isSecond same
  have sameValue : left.shortest.value = right.shortest.value := by
    rw [← Decimal.text_value_of_text numberLayout, ← Decimal.text_value_of_text numberLayout,
      leftText, rightText, sameText]
  obtain ⟨sameSignificand, sameExponent⟩ := Binary64.magnitude_of_shortest sameValue
  cases left
  cases right
  simp only [Binary64.mk.injEq]
  exact ⟨sameSign, sameSignificand, sameExponent⟩

/-- A floating point number has a point or an exponent, an integer has neither. -/
theorem integer_chars_ne_float_chars (integer : Int) (float : Binary64) :
    integerChars integer ≠ floatChars float := by
  intro same
  obtain ⟨first, rest, text, -, -, marked⟩ := float.shortest.text_shape numberLayout
  obtain ⟨second, further, digits, isDigit⟩ := digits_of_nat integer.natAbs
  have inFloat : '.' ∈ floatChars float ∨ 'e' ∈ floatChars float := by
    rw [floatChars, text]
    exact marked.imp (by simp +contextual) (by simp +contextual)
  have unsigned {mark : Char} (noSign : mark ≠ '-') (noDigit : mark.isDigit = false) :
      mark ∉ integerChars integer := by
    rw [integer_chars_eq_signed, digits, List.mem_append, not_or]
    exact ⟨by split <;> simp [noSign], Decimal.not_mem_of_digits noDigit isDigit⟩
  rw [← same] at inFloat
  rcases inFloat with point | letter
  · exact unsigned (by decide) (by decide) point
  · exact unsigned (by decide) (by decide) letter

theorem chars_injective {left right : Number} (same : left.chars = right.chars) :
    left = right := by
  cases left with
  | integer left inRange =>
      cases right with
      | integer right _ =>
          have equal : left = right := integer_chars_injective same
          subst equal
          rfl
      | float right => exact absurd same (integer_chars_ne_float_chars left right)
  | float left =>
      cases right with
      | integer right _ => exact absurd same.symm (integer_chars_ne_float_chars right left)
      | float right => rw [float_chars_injective same]

end Number

end SearchKit.Json
