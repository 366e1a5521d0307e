import Mathlib.Data.List.Basic
import SearchKit.Proofs.Text.LowerCase
import SearchKit.Url.Path

/-!
Encoded segments of a path. Encoding leaves no mark in a segment that would end it, and a segment
that means the directory itself or the one above it was already written with dots only.
-/

namespace SearchKit.Url

open Text (upperHexDigit eq_of_to_lower)

set_option autoImplicit false

theorem utf8_injective {text other : List Char} (same : utf8 text = utf8 other) : text = other := by
  apply String.ofList_injective
  rw [← String.toByteArray_inj]
  exact List.toByteArray_inj.mpr same

theorem decode_plain {text : List Char} (plain : '%' ∉ text) : decode text = utf8 text := by
  induction text with
  | nil => rfl
  | cons first rest ih =>
      rw [List.mem_cons, not_or] at plain
      rw [decode_cons (Ne.symm plain.1), ih plain.2]
      rfl

/-! ## Marks -/

/-- Where one of these stands plainly, a segment or the whole path ends. -/
def endMarks : List Char := ['/', '?', '#']

theorem end_mark_cases {mark : Char} (isMark : mark ∈ endMarks) :
    mark = '/' ∨ mark = '?' ∨ mark = '#' := by
  simpa [endMarks] using isMark

theorem mark_not_mem_encode_byte {mark : Char} (isMark : mark ∈ endMarks) (byte : UInt8) :
    mark ∉ encodeByte byte := by
  have others : mark ≠ '%' ∧ ∀ value ∈ List.range 16, mark ≠ upperHexDigit value := by
    rcases end_mark_cases isMark with rfl | rfl | rfl <;> decide
  obtain ⟨noPercent, noDigit⟩ := others
  have bound : byte.toNat < 256 := byte.toNat_lt
  have high := noDigit (byte.toNat / 16) (List.mem_range.mpr (by omega))
  have low := noDigit (byte.toNat % 16) (List.mem_range.mpr (Nat.mod_lt _ (by decide)))
  simp only [encodeByte, List.mem_cons, List.not_mem_nil, or_false, not_or]
  exact ⟨noPercent, high, low⟩

theorem mark_not_mem_encode {mark : Char} (isMark : mark ∈ endMarks) {reserved : Char → Bool}
    {text : List Char} (kept : reserved mark = true ∨ mark ∉ text) :
    mark ∉ encode reserved text := by
  intro member
  obtain ⟨character, inText, written⟩ := List.mem_flatMap.mp member
  split at written
  · obtain ⟨byte, -, digit⟩ := List.mem_flatMap.mp written
    exact mark_not_mem_encode_byte isMark byte digit
  · rename_i plain
    rw [← List.mem_singleton.mp written] at inText plain
    rcases kept with isReserved | absent
    · exact plain isReserved
    · exact absent inText

/-! ## Dots -/

theorem e_of_to_lower {character : Char} (lowered : character.toLower = 'e') :
    character = 'e' ∨ character = 'E' :=
  (Text.to_lower_eq_iff (by decide) character).mp lowered

theorem decode_dot_of_to_lower {segment : List Char} {rest : List Char}
    (lowered : segment.map Char.toLower = '%' :: '2' :: 'e' :: rest) :
    ∃ more, more.map Char.toLower = rest ∧ decode segment = 0x2E :: decode more := by
  obtain ⟨percent, _, rfl, isPercent, afterPercent⟩ := List.map_eq_cons_iff.mp lowered
  obtain ⟨two, _, rfl, isTwo, afterTwo⟩ := List.map_eq_cons_iff.mp afterPercent
  obtain ⟨letter, more, rfl, isLetter, further⟩ := List.map_eq_cons_iff.mp afterTwo
  have samePercent := eq_of_to_lower isPercent (by decide)
  have sameTwo := eq_of_to_lower isTwo (by decide)
  subst samePercent sameTwo
  refine ⟨more, further, ?_⟩
  rcases e_of_to_lower isLetter with rfl | rfl
  · rfl
  · rfl

theorem decode_plain_dot_of_to_lower {segment : List Char} {rest : List Char}
    (lowered : segment.map Char.toLower = '.' :: rest) :
    ∃ more, more.map Char.toLower = rest ∧ decode segment = 0x2E :: decode more := by
  obtain ⟨dot, more, rfl, isDot, further⟩ := List.map_eq_cons_iff.mp lowered
  have sameDot := eq_of_to_lower isDot (by decide)
  subst sameDot
  refine ⟨more, further, ?_⟩
  rw [decode_cons (by decide)]
  rfl

theorem decode_of_lowered_nil {segment : List Char} (lowered : segment.map Char.toLower = []) :
    decode segment = [] := by
  rw [List.map_eq_nil_iff.mp lowered]
  rfl

theorem decode_of_is_here {segment : List Char} (here : Path.isHere segment = true) :
    decode segment = utf8 ['.'] := by
  unfold Path.isHere at here
  split at here
  · rename_i lowered
    obtain ⟨more, further, decoded⟩ := decode_plain_dot_of_to_lower lowered
    rw [decoded, decode_of_lowered_nil further]
    rfl
  · rename_i lowered
    obtain ⟨more, further, decoded⟩ := decode_dot_of_to_lower lowered
    rw [decoded, decode_of_lowered_nil further]
    rfl
  · contradiction

theorem decode_of_is_above {segment : List Char} (above : Path.isAbove segment = true) :
    decode segment = utf8 ['.', '.'] := by
  unfold Path.isAbove at above
  split at above
  · rename_i lowered
    obtain ⟨more, further, decoded⟩ := decode_plain_dot_of_to_lower lowered
    obtain ⟨last, none, decodedLast⟩ := decode_plain_dot_of_to_lower further
    rw [decoded, decodedLast, decode_of_lowered_nil none]
    rfl
  · rename_i lowered
    obtain ⟨more, further, decoded⟩ := decode_plain_dot_of_to_lower lowered
    obtain ⟨last, none, decodedLast⟩ := decode_dot_of_to_lower further
    rw [decoded, decodedLast, decode_of_lowered_nil none]
    rfl
  · rename_i lowered
    obtain ⟨more, further, decoded⟩ := decode_dot_of_to_lower lowered
    obtain ⟨last, none, decodedLast⟩ := decode_plain_dot_of_to_lower further
    rw [decoded, decodedLast, decode_of_lowered_nil none]
    rfl
  · rename_i lowered
    obtain ⟨more, further, decoded⟩ := decode_dot_of_to_lower lowered
    obtain ⟨last, none, decodedLast⟩ := decode_dot_of_to_lower further
    rw [decoded, decodedLast, decode_of_lowered_nil none]
    rfl
  · contradiction

section Reserved

variable {reserved : Char → Bool}

theorem not_is_here_encode (percent : reserved '%' = true) {text : List Char}
    (noDot : text ≠ ['.']) : Path.isHere (encode reserved text) = false := by
  by_contra here
  have decoded := decode_of_is_here (Bool.not_eq_false _ ▸ here)
  rw [decode_encode reserved percent] at decoded
  exact noDot (utf8_injective decoded)

theorem not_is_above_encode (percent : reserved '%' = true) {text : List Char}
    (noDots : text ≠ ['.', '.']) : Path.isAbove (encode reserved text) = false := by
  by_contra above
  have decoded := decode_of_is_above (Bool.not_eq_false _ ▸ above)
  rw [decode_encode reserved percent] at decoded
  exact noDots (utf8_injective decoded)

end Reserved

end SearchKit.Url
