import SearchKit.Json.Printer
import SearchKit.Json.Reader

/-!
Strings through their JSON text. Every character, as it is or escaped, is read back as itself, and
so the text of a string is read up to its closing quote and not beyond.
-/

namespace SearchKit.Json

open Text (hexValue?)

set_option autoImplicit false

theorem hex_value_of_hex_digit (value : Nat) : hexValue? (hexDigit value) = some (value % 16) := by
  have all : ∀ digit ∈ List.range 16, hexValue? (Nat.digitChar digit) = some digit := by decide
  exact all (value % 16) (List.mem_range.mpr (Nat.mod_lt _ (by decide)))

/-- Four digits are at least the four bytes that the reader asks for. -/
theorem read_hex_of_digits {first second third fourth : Char} {a b c d : Nat}
    (firstValue : hexValue? first = some a) (secondValue : hexValue? second = some b)
    (thirdValue : hexValue? third = some c) (fourthValue : hexValue? fourth = some d)
    (left : List Char) :
    readHex (first :: second :: third :: fourth :: left) =
      .ok (((a * 16 + b) * 16 + c) * 16 + d, left) := by
  have enough : ¬byteCount ((first :: second :: third :: fourth :: left).take 4) < 4 := by
    have sizes := fun character : Char => character.utf8Size_pos
    have firstSize := sizes first
    have secondSize := sizes second
    have thirdSize := sizes third
    have fourthSize := sizes fourth
    simp only [byteCount, List.take_succ_cons, List.take_zero]
    omega
  simp only [readHex, if_neg enough, firstValue, secondValue, thirdValue, fourthValue]

theorem read_escape_of_control {character : Char} (control : character.toNat < 0x20)
    (left : List Char) :
    readEscape
        ('u' :: '0' :: '0' :: hexDigit (character.toNat / 16) :: hexDigit character.toNat :: left) =
      .ok (character, left) := by
  have zero : hexValue? '0' = some 0 := by decide
  have code : ((0 * 16 + 0) * 16 + character.toNat / 16 % 16) * 16 + character.toNat % 16 =
      character.toNat := by omega
  have low : isLowSurrogate character.toNat = false := by
    simp only [isLowSurrogate, Bool.and_eq_false_iff, decide_eq_false_iff_not]
    omega
  have high : isHighSurrogate character.toNat = false := by
    simp only [isHighSurrogate, Bool.and_eq_false_iff, decide_eq_false_iff_not]
    omega
  simp only [readEscape, readCode, read_hex_of_digits zero zero (hex_value_of_hex_digit _)
    (hex_value_of_hex_digit _), code, low, high, Bool.false_eq_true, if_false, Char.ofNat_toNat]

theorem read_string_of_escape {read left after : List Char} {character : Char}
    (taken : readEscape left = .ok (character, after)) :
    readString read ('\\' :: left) = readString (character :: read) after := by
  rw [readString]
  split
  · rename_i failed
    rw [taken] at failed
    contradiction
  · rename_i found further same
    rw [taken] at same
    injection same with pair
    injection pair with sameCharacter sameAfter
    rw [sameCharacter, sameAfter]

theorem read_string_of_plain {read left : List Char} {character : Char}
    (notQuote : character ≠ '"') (notEscape : character ≠ '\\')
    (printable : ¬character.toNat < 0x20) :
    readString read (character :: left) = readString (character :: read) left := by
  rw [readString]
  · rw [if_neg printable]
  · exact notQuote
  · exact notEscape

theorem read_string_escape_char (read left : List Char) (character : Char) :
    readString read (escapeChar character ++ left) = readString (character :: read) left := by
  unfold escapeChar
  split
  case h_8 other quote escape _ _ _ _ _ =>
    split
    · rename_i control
      exact read_string_of_escape (read_escape_of_control control left)
    · rename_i printable
      exact read_string_of_plain quote escape printable
  all_goals exact read_string_of_escape rfl

theorem read_string_escaped (read characters left : List Char) :
    readString read (characters.flatMap escapeChar ++ '"' :: left) =
      .ok (String.ofList (read.reverse ++ characters), left) := by
  induction characters generalizing read with
  | nil => simp [readString]
  | cons character rest ih =>
      rw [List.flatMap_cons, List.append_assoc, read_string_escape_char, ih]
      simp

theorem read_string_chars (text : String) (left : List Char) :
    readString [] (text.toList.flatMap escapeChar ++ '"' :: left) = .ok (text, left) := by
  rw [read_string_escaped]
  simp

end SearchKit.Json
