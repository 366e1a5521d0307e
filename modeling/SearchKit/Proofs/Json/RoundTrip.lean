import SearchKit.Proofs.Json.Shape
import SearchKit.Proofs.Json.Written

/-!
A value without floating point numbers is read back from each of its texts, members in their order,
as long as it nests within the limit of the reader and has no name twice.
-/

namespace SearchKit.Json

open Text (digitValue? isDigit)

set_option autoImplicit false

theorem is_digit_of_char_is_digit {character : Char} (digit : character.isDigit = true) :
    isDigit character = true := by
  rw [isDigit, digit_value_of_is_digit digit, Option.isSome_some]

theorem is_space_of_is_digit {character : Char} (digit : isDigit character = true) :
    isSpace character = false := by
  by_contra space
  simp only [Bool.not_eq_false, isSpace, Bool.or_eq_true, beq_iff_eq] at space
  rcases space with ((rfl | rfl) | rfl) | rfl <;> exact absurd digit (by decide)

theorem integer_chars_cases (value : Int) :
    (value < 0 ∧ Number.integerChars value = '-' :: Nat.toDigits 10 value.natAbs) ∨
      (0 ≤ value ∧ Number.integerChars value = Nat.toDigits 10 value.natAbs ∧
        ∃ first more, Nat.toDigits 10 value.natAbs = first :: more ∧ isDigit first = true) := by
  unfold Number.integerChars
  by_cases negative : value < 0
  · exact .inl ⟨negative, if_pos negative⟩
  · refine .inr ⟨by omega, if_neg negative, ?_⟩
    cases shape : Nat.toDigits 10 value.natAbs with
    | nil => exact absurd shape Nat.toDigits_ne_nil
    | cons first more =>
        have member : first ∈ Nat.toDigits 10 value.natAbs := by simp [shape]
        exact ⟨first, more, rfl, is_digit_of_char_is_digit
          (Nat.isDigit_of_mem_toDigits (by decide) (by decide) member)⟩

theorem read_value_of_digit (depth : Nat) {first : Char} (digit : isDigit first = true)
    (left : List Char) :
    readValue depth (first :: left) = (readNumber false (first :: left)).map .number := by
  unfold readValue
  rw [skip_spaces_of_head (is_space_of_is_digit digit)]
  split
  case h_9 character rest _ _ _ _ _ _ _ same =>
    injection same with sameHead sameTail
    subst sameHead sameTail
    rw [if_pos digit]
  case h_1 same => contradiction
  all_goals
    rename_i same
    injection same with sameHead
    exact absurd (sameHead ▸ digit) (by decide)

theorem read_value_of_integer (depth : Nat) (value : Int)
    (inRange : -0x8000000000000000 ≤ value ∧ value < 0x10000000000000000) {left : List Char}
    (ends : EndsNumber left) :
    readValue depth (Number.integerChars value ++ left) =
      .ok (.number (.integer value inRange), left) := by
  have small : value.natAbs < 0x10000000000000000 := by omega
  rcases integer_chars_cases value with
    ⟨negative, shape⟩ | ⟨positive, shape, first, more, digits, digit⟩
  · have magnitude : 0 < value.natAbs ∧ value.natAbs ≤ 0x8000000000000000 := by omega
    have signed : -(value.natAbs : Int) = value := by omega
    rw [shape, List.cons_append]
    unfold readValue
    rw [skip_spaces_of_head (by decide)]
    simp only [read_number_of_digits true small ends, finishInteger, if_true, dif_pos magnitude,
      Reading.map, signed]
  · have unsigned : (value.natAbs : Int) = value := by omega
    rw [shape, digits, List.cons_append, read_value_of_digit depth digit, ← List.cons_append,
      ← digits, read_number_of_digits false small ends]
    simp only [finishInteger, Bool.false_eq_true, if_false, dif_pos small, Reading.map, unsigned]

theorem ends_number_of_separator {next : Char}
    (separator : isSpace next = true ∨ next ∈ [',', ']', '\x7d']) (left : List Char) :
    EndsNumber (next :: left) := by
  simp only [isSpace, Bool.or_eq_true, beq_iff_eq, List.mem_cons, List.not_mem_nil, or_false]
    at separator
  rcases separator with (((rfl | rfl) | rfl) | rfl) | rfl | rfl | rfl
  all_goals exact ⟨by decide, by decide, by decide, by decide⟩

theorem Series.ends_number {α : Type} {entry : α → List Char → Prop} {closing : Char}
    {items : List α} {text : List Char} (series : Series entry closing items text)
    (closes : closing ∈ [']', '\x7d']) (left : List Char) : EndsNumber (text ++ left) := by
  obtain ⟨head, tail, rfl, separates⟩ := series.begins
  apply ends_number_of_separator
  rcases separates with space | rfl | rfl
  · exact .inl space
  · exact .inr (by simp)
  · exact .inr (List.mem_cons_of_mem _ closes)

theorem read_value_after_blank (depth : Nat) {spaces : List Char} (blank : Blank spaces)
    (left : List Char) : readValue depth (spaces ++ left) = readValue depth left := by
  unfold readValue
  rw [skip_blank blank]

section Lists

variable {readItem : List Char → Reading Json}

/-- The reader reads a value back from each of its texts, whatever follows. -/
def ReadsBack (readItem : List Char → Reading Json) (json : Json) : Prop :=
  ∀ {spaces text left : List Char}, Blank spaces → Written json text → EndsNumber left →
    readItem (spaces ++ (text ++ left)) = .ok (json, left)

theorem read_further_items {items : List Json} (back : ∀ item ∈ items, ReadsBack readItem item)
    {text : List Char} (series : Series Written ']' items text) (before : List Json) {bound : Nat}
    (enough : items.length < bound) (left : List Char) :
    readFurtherItems readItem bound before (text ++ left) =
      .ok (before.reverse ++ items, left) := by
  induction series generalizing before bound with
  | closed blank =>
      obtain ⟨bound, rfl⟩ : ∃ fewer, bound = fewer + 1 := ⟨bound - 1, by omega⟩
      simp [readFurtherItems, skip_blank blank,
        skip_spaces_of_head (by decide : isSpace ']' = false)]
  | @more item rest behind spaces text further blankBehind blankBefore written series ih =>
      obtain ⟨bound, rfl⟩ : ∃ fewer, bound = fewer + 1 := ⟨bound - 1, by omega⟩
      rw [List.forall_mem_cons] at back
      have first := back.1 blank_nil written (series.ends_number (by simp) left)
      have fewer : rest.length < bound := by
        simp only [List.length_cons] at enough
        omega
      have onward := ih back.2 (item :: before) fewer
      obtain ⟨head, tail, rfl, solid, notClosing⟩ := written.starts_apart
      rw [List.nil_append, List.cons_append] at first
      simp only [List.append_assoc, List.cons_append, readFurtherItems, skip_blank blankBehind,
        skip_spaces_of_head (by decide : isSpace ',' = false), skip_blank blankBefore,
        skip_spaces_of_head solid]
      split
      · contradiction
      · rename_i same
        injection same with closing
        contradiction
      · simp [first, onward]

theorem read_items {items : List Json} (back : ∀ item ∈ items, ReadsBack readItem item)
    {text : List Char} (listed : Listed Written ']' items text) (left : List Char) :
    readItems readItem (text ++ left) = .ok (items, left) := by
  cases listed with
  | none blank =>
      simp [readItems, skip_blank blank, skip_spaces_of_head (by decide : isSpace ']' = false)]
  | @some item rest spaces text further blank written series =>
      rw [List.forall_mem_cons] at back
      have first := back.1 blank_nil written (series.ends_number (by simp) left)
      have bounded := series.length_le
      have enough : rest.length < (further ++ left).length + 1 := by
        simp only [List.length_append]
        omega
      have onward := read_further_items back.2 series [item] enough left
      obtain ⟨head, tail, rfl, solid, notClosing⟩ := written.starts_apart
      rw [List.nil_append, List.cons_append] at first
      simp only [List.append_assoc, List.cons_append, readItems, skip_blank blank,
        skip_spaces_of_head solid]
      split
      · contradiction
      · rename_i same
        injection same with closing
        contradiction
      · simp only [first, onward, List.reverse_singleton, List.singleton_append]

theorem read_member {member : String × Json} (back : ReadsBack readItem member.2)
    {text : List Char} (written : MemberWritten Written member text) {left : List Char}
    (ends : EndsNumber left) :
    ∃ inside, text = '"' :: inside ∧
      readMember readItem (inside ++ left) = .ok (member, left) := by
  cases written with
  | @member name json behind before text blankBehind blankBefore written =>
      refine ⟨name.toList.flatMap escapeChar ++ '"' :: (behind ++ ':' :: (before ++ text)),
        by simp [stringChars], ?_⟩
      have value := back blankBefore written ends
      unfold readMember
      simp only [List.append_assoc, List.cons_append, read_string_chars, skip_blank blankBehind,
        skip_spaces_of_head (by decide : isSpace ':' = false), value]

theorem read_further_members {members : Entries Json}
    (back : ∀ member ∈ members, ReadsBack readItem member.2) {text : List Char}
    (series : Series (MemberWritten Written) '\x7d' members text) (before : Entries Json)
    (distinct : (Entries.names (before ++ members)).Nodup) {bound : Nat}
    (enough : members.length < bound) (left : List Char) :
    readFurtherMembers readItem bound before (text ++ left) = .ok (before ++ members, left) := by
  induction series generalizing before bound with
  | closed blank =>
      obtain ⟨bound, rfl⟩ : ∃ fewer, bound = fewer + 1 := ⟨bound - 1, by omega⟩
      simp [readFurtherMembers, skip_blank blank,
        skip_spaces_of_head (by decide : isSpace '\x7d' = false)]
  | @more member rest behind spaces text further blankBehind blankBefore written series ih =>
      obtain ⟨bound, rfl⟩ : ∃ fewer, bound = fewer + 1 := ⟨bound - 1, by omega⟩
      rw [List.forall_mem_cons] at back
      obtain ⟨inside, rfl, first⟩ := read_member back.1 written (series.ends_number (by simp) left)
      have new : member.1 ∉ Entries.names before := by
        simp only [Entries.names, List.map_append, List.map_cons] at distinct
        intro old
        exact List.disjoint_of_nodup_append distinct old (by simp)
      rw [List.append_cons] at distinct
      have fewer : rest.length < bound := by
        simp only [List.length_cons] at enough
        omega
      have onward := ih back.2 (before ++ [member]) distinct fewer
      simp only [List.append_assoc, List.cons_append, readFurtherMembers, skip_blank blankBehind,
        skip_spaces_of_head (by decide : isSpace ',' = false), skip_blank blankBefore,
        skip_spaces_of_head (by decide : isSpace '"' = false), first,
        Entries.put_of_not_mem member.2 new, onward, List.nil_append]

theorem read_members {members : Entries Json}
    (back : ∀ member ∈ members, ReadsBack readItem member.2) (distinct : members.names.Nodup)
    {text : List Char} (listed : Listed (MemberWritten Written) '\x7d' members text)
    (left : List Char) : readMembers readItem (text ++ left) = .ok (members, left) := by
  cases listed with
  | none blank =>
      simp [readMembers, skip_blank blank,
        skip_spaces_of_head (by decide : isSpace '\x7d' = false)]
  | @some member rest spaces text further blank written series =>
      rw [List.forall_mem_cons] at back
      obtain ⟨inside, rfl, first⟩ := read_member back.1 written (series.ends_number (by simp) left)
      have bounded := series.length_le
      have enough : rest.length < (further ++ left).length + 1 := by
        simp only [List.length_append]
        omega
      have onward := read_further_members back.2 series [member] distinct enough left
      simp only [List.append_assoc, List.cons_append, readMembers, skip_blank blank,
        skip_spaces_of_head (by decide : isSpace '"' = false), first, onward, List.nil_append]

end Lists

theorem read_plain_value (depth : Nat) {json : Json} (plain : Fits 0 json)
    (floatFree : json.isFloatFree = true) {text left : List Char} (written : Written json text)
    (ends : EndsNumber left) : readValue depth (text ++ left) = .ok (json, left) := by
  cases written with
  | null | true | false => simp [readValue, skipSpaces, isSpace, readWord]
  | number value =>
      cases value with
      | float value => simp [isFloatFree] at floatFree
      | integer value inRange => exact read_value_of_integer depth value inRange ends
  | string text =>
      simp only [stringChars, List.cons_append, List.append_assoc, List.nil_append, readValue,
        skip_spaces_of_head (by decide : isSpace '"' = false), read_string_chars, Reading.map]
  | array _ => exact plain.elim
  | object _ => exact plain.elim

/-- A value is read back from each of its texts, and nothing behind the text is touched. -/
theorem read_written_value {depth : Nat} {json : Json} (fits : Fits depth json)
    (floatFree : json.isFloatFree = true) : ReadsBack (readValue depth) json := by
  intro spaces text left blank written ends
  rw [read_value_after_blank depth blank]
  induction depth generalizing json text left spaces with
  | zero => exact read_plain_value 0 fits floatFree written ends
  | succ depth ih =>
      cases written with
      | @array items inside listed =>
          rw [float_free_array] at floatFree
          have back : ∀ item ∈ items, ReadsBack (readValue depth) item := by
            intro item among spaces text left blank written ends
            rw [read_value_after_blank depth blank]
            exact ih (fits item among) (floatFree item among) blank written ends
          simp only [List.cons_append, readValue,
            skip_spaces_of_head (by decide : isSpace '[' = false), read_items back listed,
            Reading.map]
      | @object members inside listed =>
          rw [float_free_object] at floatFree
          have back : ∀ member ∈ members, ReadsBack (readValue depth) member.2 := by
            intro member among spaces text left blank written ends
            rw [read_value_after_blank depth blank]
            exact ih (fits.2 member among) (floatFree member among) blank written ends
          simp only [List.cons_append, readValue,
            skip_spaces_of_head (by decide : isSpace '\x7b' = false),
            read_members back fits.1 listed, Reading.map]
      | null => exact read_plain_value _ (fits_null 0) floatFree .null ends
      | true => exact read_plain_value _ (fits_bool 0 _) floatFree .true ends
      | false => exact read_plain_value _ (fits_bool 0 _) floatFree .false ends
      | number value => exact read_plain_value _ (fits_number 0 _) floatFree (.number value) ends
      | string text => exact read_plain_value _ (fits_string 0 _) floatFree (.string text) ends

theorem read_document_of_text {depth : Nat} {json : Json} (plain : Plain depth json)
    {text : String} (isText : IsTextOf text json) :
    readDocument depth text.toList = .ok json := by
  obtain ⟨before, inside, behind, blank, written, blankBehind, shape⟩ := isText
  have ends : EndsNumber behind := by
    cases behind with
    | nil => trivial
    | cons head tail => exact ends_number_of_separator (.inl (blankBehind head (by simp))) tail
  have skipped : skipSpaces behind = [] := by
    rw [← List.append_nil behind, skip_blank blankBehind]
    rfl
  rw [readDocument, shape, read_written_value plain.fits plain.floatFree blank written ends]
  simp only [skipped]

theorem of_text_of_is_text {json : Json} (plain : Plain nestingLimit json) {text : String}
    (isText : IsTextOf text json) : ofText text = .ok json := by
  rw [ofText, read_document_of_text plain isText]
  rfl

theorem of_text_of_text {json : Json} (plain : Plain nestingLimit json) :
    ofText json.text = .ok json :=
  of_text_of_is_text plain (text_is_text_of json)

end SearchKit.Json
