import SearchKit.Engine.Action
import SearchKit.Proofs.Json.RoundTrip
import SearchKit.Proofs.Json.Unambiguous
import SearchKit.Proofs.Text.Cutting

/-!
JSON values one a line. No text of a value holds a control character, so that the lines of a text
are the values it was made of, and each line is read back on its own, however deep its value nests.
-/

namespace SearchKit

set_option autoImplicit false

namespace Json

/-! ## Control characters -/

def Printable (character : Char) : Prop := 0x20 ≤ character.toNat

instance (character : Char) : Decidable (Printable character) :=
  inferInstanceAs (Decidable (_ ≤ _))

theorem printable_of_number_mark {character : Char}
    (mark : Decimal.isNumberMark character = true) : Printable character := by
  rw [Decimal.isNumberMark, Bool.or_eq_true] at mark
  rcases mark with digit | sign
  · simp only [Char.isDigit, Bool.and_eq_true, decide_eq_true_eq, ge_iff_le,
      UInt32.le_iff_toNat_le] at digit
    exact le_trans (by decide) digit.1
  · have all : ∀ sign ∈ ['.', 'e', '-', '+'], Printable sign := by simp [Printable]
    exact all character (by simpa using sign)

theorem printable_hex_digit (value : Nat) : Printable (hexDigit value) := by
  have all : ∀ digit ∈ List.range 16, Printable (Nat.digitChar digit) := by decide
  exact all (value % 16) (List.mem_range.mpr (Nat.mod_lt _ (by decide)))

theorem printable_escape_char (character : Char) :
    ∀ written ∈ escapeChar character, Printable written := by
  unfold escapeChar
  split
  case h_8 =>
    split
    · have start : ∀ written ∈ ['\\', 'u', '0', '0'], Printable written := by simp [Printable]
      have digits : ∀ written ∈ [hexDigit (character.toNat / 16), hexDigit character.toNat],
          Printable written := by
        simp [printable_hex_digit]
      exact List.forall_mem_append.mpr ⟨start, digits⟩
    · rename_i printable
      intro written member
      rw [List.mem_singleton.mp member]
      exact Nat.le_of_not_lt printable
  all_goals simp [Printable]

theorem printable_string_chars (text : String) :
    ∀ written ∈ stringChars text, Printable written := by
  have inside : ∀ written ∈ text.toList.flatMap escapeChar, Printable written := by
    intro written member
    obtain ⟨character, -, escaped⟩ := List.mem_flatMap.mp member
    exact printable_escape_char character written escaped
  have quote : ∀ written ∈ ['"'], Printable written := by simp [Printable]
  exact List.forall_mem_append.mpr ⟨quote, List.forall_mem_append.mpr ⟨inside, quote⟩⟩

section Lists

theorem printable_further_items {items : List Json}
    (each : ∀ item ∈ items, ∀ written ∈ item.chars, Printable written) :
    ∀ written ∈ furtherItemsChars items, Printable written := by
  induction items with
  | nil => simp [furtherItemsChars]
  | cons item rest ih =>
      rw [List.forall_mem_cons] at each
      rw [furtherItemsChars, List.forall_mem_cons, List.forall_mem_append]
      exact ⟨by decide, each.1, ih each.2⟩

theorem printable_items {items : List Json}
    (each : ∀ item ∈ items, ∀ written ∈ item.chars, Printable written) :
    ∀ written ∈ itemsChars items, Printable written := by
  cases items with
  | nil => simp [itemsChars]
  | cons item rest =>
      rw [List.forall_mem_cons] at each
      rw [itemsChars, List.forall_mem_append]
      exact ⟨each.1, printable_further_items each.2⟩

theorem printable_further_members {members : Entries Json}
    (each : ∀ member ∈ members, ∀ written ∈ member.2.chars, Printable written) :
    ∀ written ∈ furtherMembersChars members, Printable written := by
  induction members with
  | nil => simp [furtherMembersChars]
  | cons member rest ih =>
      rw [List.forall_mem_cons] at each
      simp only [furtherMembersChars, List.forall_mem_cons, List.forall_mem_append]
      exact ⟨by decide, printable_string_chars member.1, by decide, each.1, ih each.2⟩

theorem printable_members {members : Entries Json}
    (each : ∀ member ∈ members, ∀ written ∈ member.2.chars, Printable written) :
    ∀ written ∈ membersChars members, Printable written := by
  cases members with
  | nil => simp [membersChars]
  | cons member rest =>
      rw [List.forall_mem_cons] at each
      simp only [membersChars, List.forall_mem_cons, List.forall_mem_append]
      exact ⟨printable_string_chars member.1, by decide, each.1, printable_further_members each.2⟩

end Lists

/-- The compact text of a value has no line break and no other control character. -/
theorem printable_chars (json : Json) : ∀ written ∈ json.chars, Printable written := by
  induction json using inside_induction with
  | null => simp [chars, Printable]
  | bool value => cases value <;> simp [chars, Printable]
  | number value =>
      obtain ⟨-, -, -, -, marks⟩ := value.chars_shape
      rw [chars]
      exact fun written member => printable_of_number_mark (marks written member)
  | string text =>
      rw [chars]
      exact printable_string_chars text
  | array items each =>
      rw [chars, List.forall_mem_cons, List.forall_mem_append]
      exact ⟨by decide, printable_items each, by simp [Printable]⟩
  | object members each =>
      rw [chars, List.forall_mem_cons, List.forall_mem_append]
      exact ⟨by decide, printable_members each, by simp [Printable]⟩

theorem control_not_mem_text {control : Char} (small : control.toNat < 0x20) (json : Json) :
    control ∉ json.text.toList := by
  rw [text, String.toList_ofList]
  intro member
  exact absurd (printable_chars json control member) (Nat.not_le_of_lt small)

/-! ## Reading a line -/

/-- The value of a line. No line nests deeper than it is long, so its length is limit enough. -/
def ofLine? (line : String) : Option Json :=
  (readDocument line.toList.length line.toList).toOption

theorem length_le_items {items : List Json} {item : Json} (member : item ∈ items) :
    item.chars.length ≤ (itemsChars items).length := by
  have further {rest : List Json} (later : item ∈ rest) :
      item.chars.length ≤ (furtherItemsChars rest).length := by
    induction rest with
    | nil => contradiction
    | cons other rest ih =>
        rw [furtherItemsChars, List.length_cons, List.length_append]
        rcases List.mem_cons.mp later with rfl | last
        · omega
        · have bounded := ih last
          omega
  cases items with
  | nil => contradiction
  | cons first rest =>
      rw [itemsChars, List.length_append]
      rcases List.mem_cons.mp member with rfl | later
      · omega
      · have bounded := further later
        omega

theorem length_le_members {members : Entries Json} {member : String × Json}
    (inside : member ∈ members) : member.2.chars.length ≤ (membersChars members).length := by
  have further {rest : Entries Json} (later : member ∈ rest) :
      member.2.chars.length ≤ (furtherMembersChars rest).length := by
    induction rest with
    | nil => contradiction
    | cons other rest ih =>
        simp only [furtherMembersChars, List.length_cons, List.length_append]
        rcases List.mem_cons.mp later with rfl | last
        · omega
        · have bounded := ih last
          omega
  cases members with
  | nil => contradiction
  | cons first rest =>
      simp only [membersChars, List.length_cons, List.length_append]
      rcases List.mem_cons.mp inside with rfl | later
      · omega
      · have bounded := further later
        omega

theorem fits_length {depth : Nat} {json : Json} (fits : Fits depth json) :
    Fits json.chars.length json := by
  induction json using inside_induction generalizing depth with
  | null | bool _ | number _ | string _ => simp
  | array items each =>
      cases depth with
      | zero => exact fits.elim
      | succ depth =>
          rw [chars, List.length_cons]
          intro item member
          apply (each item member (fits item member)).mono
          have bounded := length_le_items member
          rw [List.length_append]
          omega
  | object members each =>
      cases depth with
      | zero => exact fits.elim
      | succ depth =>
          rw [chars, List.length_cons]
          refine ⟨fits.1, ?_⟩
          intro member inside
          apply (each member inside (fits.2 member inside)).mono
          have bounded := length_le_members inside
          rw [List.length_append]
          omega

theorem of_line_text {depth : Nat} {json : Json} (plain : Plain depth json) :
    ofLine? json.text = some json := by
  have fits : Plain json.text.toList.length json := by
    rw [text, String.toList_ofList]
    exact ⟨fits_length plain.fits, plain.floatFree⟩
  rw [ofLine?, read_document_of_text fits (text_is_text_of json)]
  rfl

end Json

/-! ## One value a line -/

namespace Action

theorem split_lines_text {values : List Json} (some : values ≠ []) :
    Text.split '\n' (linesText values) = values.map Json.text ++ [""] := by
  apply Text.split_ended
  · simpa using some
  · intro line member
    obtain ⟨value, -, rfl⟩ := List.mem_map.mp member
    exact value.control_not_mem_text (by decide)

/-- The lines of a text without what is behind the last line break. -/
def linesOf (text : String) : List String := (Text.split '\n' text).dropLast

theorem lines_of_lines_text {values : List Json} (some : values ≠ []) :
    linesOf (linesText values) = values.map Json.text := by
  rw [linesOf, split_lines_text some, List.dropLast_concat]

theorem lines_text_injective {values others : List Json}
    (same : linesText values = linesText others) : values = others := by
  have none : Text.split '\n' (linesText []) = [""] ++ [""] := by decide +kernel
  have absurdLine {further : List Json} (some : further ≠ [])
      (equal : linesText [] = linesText further) : False := by
    have cut := split_lines_text some
    rw [← equal, none] at cut
    have lines := List.append_cancel_right cut
    cases further with
    | nil => contradiction
    | cons value rest =>
        injection lines with empty
        obtain ⟨first, more, shape, -⟩ := (Json.written_chars value).begins
        rw [Json.text, shape] at empty
        have chars := congrArg String.toList empty
        simp at chars
  rcases eq_or_ne values [] with rfl | some
  · rcases eq_or_ne others [] with rfl | otherSome
    · rfl
    · exact (absurdLine otherSome same).elim
  · rcases eq_or_ne others [] with rfl | otherSome
    · exact (absurdLine some same.symm).elim
    · have lines := lines_of_lines_text some
      rw [same, lines_of_lines_text otherSome] at lines
      exact List.map_injective_iff.mpr (fun _ _ => Json.text_injective) lines.symm

end Action

end SearchKit
