import SearchKit.Proofs.Json.Written

/-!
A text belongs to one value only, floating point numbers, nesting of any depth and repeated names
included. Behind a value may follow what ends a number; how far the value goes is then seen from the
text alone.
-/

namespace SearchKit.Json

set_option autoImplicit false

open Decimal (isNumberMark)

/-! ## Where a value ends -/

/-- No character of a number follows. -/
def EndsValue (left : List Char) : Prop := ∀ next ∈ left.head?, isNumberMark next = false

theorem ends_value_nil : EndsValue [] := by simp [EndsValue]

theorem take_number {number left : List Char}
    (marks : ∀ character ∈ number, isNumberMark character = true) (ends : EndsValue left) :
    (number ++ left).takeWhile isNumberMark = number ∧
      (number ++ left).dropWhile isNumberMark = left := by
  rw [List.takeWhile_append_of_pos marks, List.dropWhile_append_of_pos marks]
  cases left with
  | nil => simp
  | cons next rest =>
      have apart := ends next (by simp)
      simp [apart]

theorem number_mark_of_is_space {character : Char} (space : isSpace character = true) :
    isNumberMark character = false := by
  simp only [isSpace, Bool.or_eq_true, beq_iff_eq] at space
  rcases space with ((rfl | rfl) | rfl) | rfl <;> rfl

theorem ends_value_of_blank {spaces : List Char} (blank : Blank spaces) : EndsValue spaces := by
  intro next member
  exact number_mark_of_is_space (blank next (List.mem_of_mem_head? member))

section Series

variable {α : Type} {entry : α → List Char → Prop} {closing : Char}

theorem Series.ends_value {items : List α} {text : List Char}
    (series : Series entry closing items text) (noMark : isNumberMark closing = false)
    (left : List Char) : EndsValue (text ++ left) := by
  obtain ⟨head, tail, rfl, apart⟩ := series.begins
  intro next member
  obtain rfl : head = next := by simpa using member
  rcases apart with space | rfl | rfl
  · exact number_mark_of_is_space space
  · rfl
  · exact noMark

theorem same_behind_closing (solid : isSpace closing = false) {spaces others left right : List Char}
    (blank : Blank spaces) (otherBlank : Blank others)
    (same : spaces ++ [closing] ++ left = others ++ [closing] ++ right) : left = right := by
  simp only [List.append_assoc, List.singleton_append] at same
  have closed := same_behind_blank blank otherBlank (skip_spaces_of_head solid _)
    (skip_spaces_of_head solid _) same
  injection closed

/-- How far an entry goes is seen from the text, and so is the entry. -/
def ToldApart (entry : α → List Char → Prop) (item : α) : Prop :=
  ∀ {other : α} {text otherText left right : List Char}, entry item text →
    entry other otherText → EndsValue left → EndsValue right →
    text ++ left = otherText ++ right → item = other ∧ left = right

section Lists

variable (solid : isSpace closing = false) (noMark : isNumberMark closing = false)
  (noComma : closing ≠ ',') (apart : ∀ {item text}, entry item text → StartsApart closing text)

include solid noMark noComma apart

theorem Series.told_apart {items others : List α} (each : ∀ item ∈ items, ToldApart entry item)
    {text otherText left right : List Char} (series : Series entry closing items text)
    (otherSeries : Series entry closing others otherText)
    (same : text ++ left = otherText ++ right) : items = others ∧ left = right := by
  have comma : isSpace ',' = false := rfl
  induction series generalizing others otherText with
  | closed blank =>
      cases otherSeries with
      | closed otherBlank =>
          exact ⟨rfl, same_behind_closing solid blank otherBlank same⟩
      | more otherBlank _ _ _ =>
          simp only [List.append_assoc, List.cons_append] at same
          have ended := same_behind_blank blank otherBlank (skip_spaces_of_head solid _)
            (skip_spaces_of_head comma _) same
          injection ended with closes
          exact absurd closes noComma
  | more blankBehind blankBefore written series ih =>
      cases otherSeries with
      | closed otherBlank =>
          simp only [List.append_assoc, List.cons_append] at same
          have ended := same_behind_blank blankBehind otherBlank (skip_spaces_of_head comma _)
            (skip_spaces_of_head solid _) same
          injection ended with closes
          exact absurd closes.symm noComma
      | more otherBehind otherBefore otherWritten otherSeries =>
          simp only [List.append_assoc, List.cons_append] at same
          have further := same_behind_blank blankBehind otherBehind (skip_spaces_of_head comma _)
            (skip_spaces_of_head comma _) same
          injection further with _ further
          have entries := same_behind_blank blankBefore otherBefore ((apart written).skip _)
            ((apart otherWritten).skip _) further
          rw [List.forall_mem_cons] at each
          obtain ⟨rfl, sameRest⟩ := each.1 written otherWritten (series.ends_value noMark _)
            (otherSeries.ends_value noMark _) entries
          obtain ⟨rfl, sameLeft⟩ := ih each.2 otherSeries sameRest
          exact ⟨rfl, sameLeft⟩

theorem Listed.told_apart {items others : List α} (each : ∀ item ∈ items, ToldApart entry item)
    {text otherText left right : List Char} (listed : Listed entry closing items text)
    (otherListed : Listed entry closing others otherText)
    (same : text ++ left = otherText ++ right) : items = others ∧ left = right := by
  -- An entry does not begin like the end of its list.
  have ends {before spaces text further left right : List Char} {item : α}
      (blank : Blank before) (written : entry item text) (otherBlank : Blank spaces)
      (same : before ++ (text ++ further) ++ left = spaces ++ [closing] ++ right) : False := by
    simp only [List.append_assoc, List.singleton_append] at same
    have ended := same_behind_blank blank otherBlank ((apart written).skip _)
      (skip_spaces_of_head solid _) same
    obtain ⟨head, tail, rfl, -, notClosing⟩ := apart written
    injection ended with closes
    exact notClosing closes
  cases listed with
  | none blank =>
      cases otherListed with
      | none otherBlank =>
          exact ⟨rfl, same_behind_closing solid blank otherBlank same⟩
      | some otherBlank otherWritten _ => exact (ends otherBlank otherWritten blank same.symm).elim
  | some blank written series =>
      cases otherListed with
      | none otherBlank => exact (ends blank written otherBlank same).elim
      | some otherBlank otherWritten otherSeries =>
          simp only [List.append_assoc] at same
          have entries := same_behind_blank blank otherBlank ((apart written).skip _)
            ((apart otherWritten).skip _) same
          rw [List.forall_mem_cons] at each
          obtain ⟨rfl, sameRest⟩ := each.1 written otherWritten (series.ends_value noMark _)
            (otherSeries.ends_value noMark _) entries
          obtain ⟨rfl, sameLeft⟩ := series.told_apart solid noMark noComma apart each.2 otherSeries
            sameRest
          exact ⟨rfl, sameLeft⟩

end Lists

end Series

/-! ## Values -/

theorem string_chars_told_apart {text other : String} {left right : List Char}
    (same : stringChars text ++ left = stringChars other ++ right) :
    text = other ∧ left = right := by
  simp only [stringChars, List.cons_append, List.append_assoc, List.nil_append,
    List.cons.injEq, true_and] at same
  have read := read_string_chars text left
  rw [same, read_string_chars other right] at read
  injection read with pair
  injection pair with sameText sameLeft
  exact ⟨sameText.symm, sameLeft.symm⟩

theorem member_told_apart {member : String × Json} (told : ToldApart Written member.2) :
    ToldApart (MemberWritten Written) member := by
  intro other text otherText left right written otherWritten ends otherEnds same
  cases written with
  | member blankBehind blankBefore written =>
      cases otherWritten with
      | member otherBehind otherBefore otherWritten =>
          have colon : isSpace ':' = false := rfl
          simp only [List.append_assoc, List.cons_append] at same
          obtain ⟨rfl, sameRest⟩ := string_chars_told_apart same
          have further := same_behind_blank blankBehind otherBehind (skip_spaces_of_head colon _)
            (skip_spaces_of_head colon _) sameRest
          injection further with _ further
          have values := same_behind_blank blankBefore otherBefore (written.starts_apart.skip _)
            (otherWritten.starts_apart.skip _) further
          obtain ⟨rfl, sameLeft⟩ := told written otherWritten ends otherEnds values
          exact ⟨rfl, sameLeft⟩

theorem number_told_apart {value other : Number} {left right : List Char} (ends : EndsValue left)
    (otherEnds : EndsValue right) (same : value.chars ++ left = other.chars ++ right) :
    value = other ∧ left = right := by
  obtain ⟨-, -, -, -, marks⟩ := value.chars_shape
  obtain ⟨-, -, -, -, otherMarks⟩ := other.chars_shape
  obtain ⟨before, after⟩ := take_number marks ends
  obtain ⟨otherBefore, otherAfter⟩ := take_number otherMarks otherEnds
  have sameChars : value.chars = other.chars := by rw [← before, same, otherBefore]
  have sameLeft : left = right := by rw [← after, same, otherAfter]
  exact ⟨Number.chars_injective sameChars, sameLeft⟩

theorem kind_of_same_start {json other : Json} {text otherText left right : List Char}
    (written : Written json text) (otherWritten : Written other otherText)
    (same : text ++ left = otherText ++ right) : json.kind = other.kind := by
  obtain ⟨first, rest, rfl, isFirst⟩ := written.begins
  obtain ⟨second, further, rfl, isSecond⟩ := otherWritten.begins
  injection same with sameFirst
  rw [sameFirst, isSecond] at isFirst
  injection isFirst with sameKind
  exact sameKind.symm

/-- Whatever follows two values, their texts tell them apart and show where they end. -/
theorem told_apart (json : Json) : ToldApart Written json := by
  intro other text otherText left right written otherWritten ends otherEnds same
  have sameKind := kind_of_same_start written otherWritten same
  induction json using inside_induction generalizing other text otherText left right with
  | null =>
      cases written
      cases otherWritten with
      | null => exact ⟨rfl, List.append_cancel_left same⟩
      | _ => contradiction
  | bool value =>
      cases written <;> cases otherWritten <;> first | contradiction | simp_all
  | number value =>
      cases written
      cases otherWritten with
      | number other =>
          obtain ⟨rfl, sameLeft⟩ := number_told_apart ends otherEnds same
          exact ⟨rfl, sameLeft⟩
      | _ => contradiction
  | string text =>
      cases written
      cases otherWritten with
      | string other =>
          obtain ⟨rfl, sameLeft⟩ := string_chars_told_apart same
          exact ⟨rfl, sameLeft⟩
      | _ => contradiction
  | array items each =>
      cases written with
      | array listed =>
          cases otherWritten with
          | array otherListed =>
              have told (item : Json) (among : item ∈ items) : ToldApart Written item :=
                fun written otherWritten ends otherEnds same =>
                  each item among written otherWritten ends otherEnds same
                    (kind_of_same_start written otherWritten same)
              injection same with _ same
              obtain ⟨rfl, sameLeft⟩ := listed.told_apart rfl rfl (by decide)
                (fun written => written.starts_apart) told otherListed same
              exact ⟨rfl, sameLeft⟩
          | _ => contradiction
  | object members each =>
      cases written with
      | object listed =>
          cases otherWritten with
          | object otherListed =>
              have told (member : String × Json) (among : member ∈ members) :
                  ToldApart (MemberWritten Written) member :=
                member_told_apart fun written otherWritten ends otherEnds same =>
                  each member among written otherWritten ends otherEnds same
                    (kind_of_same_start written otherWritten same)
              injection same with _ same
              obtain ⟨rfl, sameLeft⟩ := listed.told_apart rfl rfl (by decide)
                (fun written => written.starts_apart) told otherListed same
              exact ⟨rfl, sameLeft⟩
          | _ => contradiction

theorem text_injective {json other : Json} (same : json.text = other.text) : json = other := by
  have chars : json.chars ++ [] = other.chars ++ [] := by
    rw [List.append_nil, List.append_nil]
    exact String.ofList_injective same
  exact (told_apart json (written_chars json) (written_chars other) ends_value_nil ends_value_nil
    chars).1

/-- White space around a value does not change what it is either. -/
theorem IsTextOf.unique {text : String} {json other : Json} (isText : IsTextOf text json)
    (otherText : IsTextOf text other) : json = other := by
  obtain ⟨before, inside, behind, blank, written, blankBehind, shape⟩ := isText
  obtain ⟨otherBefore, otherInside, otherBehind, otherBlank, otherWritten, otherBlankBehind,
    otherShape⟩ := otherText
  have same := same_behind_blank blank otherBlank (written.starts_apart.skip behind)
    (otherWritten.starts_apart.skip otherBehind) (shape.symm.trans otherShape)
  exact (told_apart json written otherWritten (ends_value_of_blank blankBehind)
    (ends_value_of_blank otherBlankBehind) same).1

theorem is_text_of_indented_iff (json document : Json) :
    IsTextOf (json.indentedText ++ "\n") document ↔ document = json := by
  constructor
  · intro isText
    exact isText.unique json.indented_is_text_of
  · rintro rfl
    exact document.indented_is_text_of

end SearchKit.Json
