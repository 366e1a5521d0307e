import SearchKit.Proofs.Json.Numbers
import SearchKit.Proofs.Json.Strings

/-!
How values are written. White space between the parts of arrays and objects says nothing, so a value
has many texts: the compact one and the indented one are two of them. What a text is written for is
seen from its first character on.
-/

namespace SearchKit.Json

open Decimal (isNumberMark)

set_option autoImplicit false

/-- Induction over values: what holds inside an array or an object may be assumed for it. -/
@[elab_as_elim]
theorem inside_induction {holds : Json → Prop} (null : holds .null)
    (bool : ∀ value, holds (.bool value)) (number : ∀ value, holds (.number value))
    (string : ∀ text, holds (.string text))
    (array : ∀ items, (∀ item ∈ items, holds item) → holds (.array items))
    (object : ∀ members : Entries Json, (∀ member ∈ members, holds member.2) →
      holds (.object members))
    (json : Json) : holds json := by
  refine @Json.rec holds (fun items => ∀ item ∈ items, holds item)
    (fun members => ∀ member ∈ members, holds member.2) (fun member => holds member.2)
    null bool number string array object ?_ ?_ ?_ ?_ ?_ json
  · simp
  · intro first rest inFirst inRest
    exact List.forall_mem_cons.mpr ⟨inFirst, inRest⟩
  · simp
  · intro first rest inFirst inRest
    exact List.forall_mem_cons.mpr ⟨inFirst, inRest⟩
  · intro name value inValue
    exact inValue

/-! ## White space -/

def Blank (spaces : List Char) : Prop := ∀ character ∈ spaces, isSpace character = true

theorem blank_nil : Blank [] := by simp [Blank]

theorem blank_line_start (level : Nat) : Blank (lineStart level) := by
  intro character member
  rw [lineStart, List.mem_cons, List.mem_replicate] at member
  rcases member with rfl | ⟨-, rfl⟩
  · rfl
  · rfl

theorem skip_blank {spaces : List Char} (blank : Blank spaces) (left : List Char) :
    skipSpaces (spaces ++ left) = skipSpaces left :=
  List.dropWhile_append_of_pos blank

theorem skip_spaces_of_head {head : Char} (solid : isSpace head = false) (tail : List Char) :
    skipSpaces (head :: tail) = head :: tail := by
  simp [skipSpaces, solid]

/-- Behind white space, equal texts go on alike. -/
theorem same_behind_blank {spaces others left right : List Char} (blank : Blank spaces)
    (otherBlank : Blank others) (solid : skipSpaces left = left)
    (otherSolid : skipSpaces right = right) (same : spaces ++ left = others ++ right) :
    left = right := by
  calc left = skipSpaces (spaces ++ left) := by rw [skip_blank blank, solid]
    _ = skipSpaces (others ++ right) := by rw [same]
    _ = right := by rw [skip_blank otherBlank, otherSolid]

/-! ## Written values -/

section Series

variable {α : Type}

/-- What stands behind an entry of a list: a comma and the next entry, or the closing character. -/
inductive Series (entry : α → List Char → Prop) (closing : Char) : List α → List Char → Prop
  | closed {spaces : List Char} (blank : Blank spaces) :
      Series entry closing [] (spaces ++ [closing])
  | more {item : α} {rest : List α} {behind before text further : List Char}
      (blankBehind : Blank behind) (blankBefore : Blank before) (written : entry item text)
      (series : Series entry closing rest further) :
      Series entry closing (item :: rest) (behind ++ ',' :: (before ++ (text ++ further)))

/-- What stands behind the opening character of a list. -/
inductive Listed (entry : α → List Char → Prop) (closing : Char) : List α → List Char → Prop
  | none {spaces : List Char} (blank : Blank spaces) :
      Listed entry closing [] (spaces ++ [closing])
  | some {first : α} {rest : List α} {before text further : List Char} (blank : Blank before)
      (written : entry first text) (series : Series entry closing rest further) :
      Listed entry closing (first :: rest) (before ++ (text ++ further))

theorem Series.length_le {entry : α → List Char → Prop} {closing : Char} {items : List α}
    {text : List Char} (series : Series entry closing items text) :
    items.length ≤ text.length := by
  induction series with
  | closed blank => simp
  | more _ _ _ _ ih =>
      simp only [List.length_cons, List.length_append]
      omega

end Series

inductive MemberWritten (value : Json → List Char → Prop) : String × Json → List Char → Prop
  | member {name : String} {json : Json} {behind before text : List Char}
      (blankBehind : Blank behind) (blankBefore : Blank before) (written : value json text) :
      MemberWritten value (name, json) (stringChars name ++ (behind ++ ':' :: (before ++ text)))

/-- A text for a value, without white space around it. -/
inductive Written : Json → List Char → Prop
  | null : Written .null ['n', 'u', 'l', 'l']
  | true : Written (.bool true) ['t', 'r', 'u', 'e']
  | false : Written (.bool false) ['f', 'a', 'l', 's', 'e']
  | number (value : Number) : Written (.number value) value.chars
  | string (text : String) : Written (.string text) (stringChars text)
  | array {items : List Json} {inside : List Char} (listed : Listed Written ']' items inside) :
      Written (.array items) ('[' :: inside)
  | object {members : Entries Json} {inside : List Char}
      (listed : Listed (MemberWritten Written) '\x7d' members inside) :
      Written (.object members) ('\x7b' :: inside)

/-- A text of a value and of nothing else, with white space wherever it says nothing. -/
def IsTextOf (text : String) (json : Json) : Prop :=
  ∃ before inside behind, Blank before ∧ Written json inside ∧ Blank behind ∧
    text.toList = before ++ (inside ++ behind)

/-! ## How texts begin -/

/-- What a text begins with, by its first character. -/
inductive Kind where
  | null
  | bool
  | number
  | string
  | array
  | object
deriving DecidableEq

def kind : Json → Kind
  | .null => .null
  | .bool _ => .bool
  | .number _ => .number
  | .string _ => .string
  | .array _ => .array
  | .object _ => .object

def Kind.ofFirst? (first : Char) : Option Kind :=
  if first.isDigit || first == '-' then some .number
  else if first == 'n' then some .null
  else if first == 't' || first == 'f' then some .bool
  else if first == '"' then some .string
  else if first == '[' then some .array
  else if first == '\x7b' then some .object
  else none

theorem Written.begins {json : Json} {text : List Char} (written : Written json text) :
    ∃ first rest, text = first :: rest ∧ Kind.ofFirst? first = some json.kind := by
  cases written with
  | null | true | false | string _ | array _ | object _ => exact ⟨_, _, rfl, rfl⟩
  | number value =>
      obtain ⟨first, rest, shape, isFirst, -⟩ := value.chars_shape
      refine ⟨first, rest, shape, ?_⟩
      rw [Kind.ofFirst?, kind]
      rcases isFirst with digit | rfl
      · simp [digit]
      · rfl

theorem solid_of_kind {first : Char} {kind : Kind} (known : Kind.ofFirst? first = some kind) :
    isSpace first = false := by
  by_contra space
  simp only [Bool.not_eq_false, isSpace, Bool.or_eq_true, beq_iff_eq] at space
  rcases space with ((rfl | rfl) | rfl) | rfl <;> simp [Kind.ofFirst?] at known

/-- The first character of an entry is neither passed over nor taken for the end of its list. -/
def StartsApart (closing : Char) (text : List Char) : Prop :=
  ∃ head tail, text = head :: tail ∧ isSpace head = false ∧ head ≠ closing

theorem StartsApart.skip {closing : Char} {text : List Char} (apart : StartsApart closing text)
    (left : List Char) : skipSpaces (text ++ left) = text ++ left := by
  obtain ⟨head, tail, rfl, solid, -⟩ := apart
  exact skip_spaces_of_head solid _

theorem Written.starts_apart {json : Json} {text : List Char} (written : Written json text) :
    StartsApart ']' text := by
  obtain ⟨first, rest, shape, known⟩ := written.begins
  refine ⟨first, rest, shape, solid_of_kind known, ?_⟩
  rintro rfl
  simp [Kind.ofFirst?] at known

theorem MemberWritten.starts_apart {member : String × Json} {text : List Char}
    (written : MemberWritten Written member text) : StartsApart '\x7d' text := by
  cases written with
  | member _ _ _ => exact ⟨'"', _, rfl, rfl, by decide⟩

theorem Series.begins {α : Type} {entry : α → List Char → Prop} {closing : Char} {items : List α}
    {text : List Char} (series : Series entry closing items text) :
    ∃ head tail, text = head :: tail ∧ (isSpace head = true ∨ head = ',' ∨ head = closing) := by
  -- Behind the white space stands a comma or the closing character.
  have either {spaces left : List Char} (blank : Blank spaces) {mark : Char}
      (separates : mark = ',' ∨ mark = closing) :
      ∃ head tail, spaces ++ mark :: left = head :: tail ∧
        (isSpace head = true ∨ head = ',' ∨ head = closing) := by
    cases spaces with
    | nil => exact ⟨mark, left, rfl, .inr separates⟩
    | cons head tail => exact ⟨head, _, rfl, .inl (blank head (by simp))⟩
  cases series with
  | closed blank => exact either blank (.inr rfl)
  | more blankBehind _ _ _ => exact either blankBehind (.inl rfl)

/-! ## The two layouts -/

theorem series_of_texts {α : Type} {entry : α → List Char → Prop} {text : α → List Char}
    {before behind : List Char} (blankBefore : Blank before) (blankBehind : Blank behind)
    (closing : Char) {items : List α} (each : ∀ item ∈ items, entry item (text item)) :
    Series entry closing items
      (items.flatMap (fun item => ',' :: (before ++ text item)) ++ (behind ++ [closing])) := by
  induction items with
  | nil => exact .closed blankBehind
  | cons item rest ih =>
      rw [List.forall_mem_cons] at each
      have series : Series entry closing (item :: rest) _ :=
        .more blank_nil blankBefore each.1 (ih each.2)
      simpa using series

theorem listed_of_texts {α : Type} {entry : α → List Char → Prop} {text : α → List Char}
    {before behind : List Char} (blankBefore : Blank before) (blankBehind : Blank behind)
    (closing : Char) {first : α} {rest : List α}
    (each : ∀ item ∈ first :: rest, entry item (text item)) :
    Listed entry closing (first :: rest) (before ++ (text first ++
      (rest.flatMap (fun item => ',' :: (before ++ text item)) ++ (behind ++ [closing])))) := by
  rw [List.forall_mem_cons] at each
  exact .some blankBefore each.1 (series_of_texts blankBefore blankBehind closing each.2)

theorem further_items_chars_eq (items : List Json) :
    furtherItemsChars items = items.flatMap fun item => ',' :: item.chars := by
  induction items with
  | nil => rfl
  | cons item rest ih => simp [furtherItemsChars, ih]

theorem further_members_chars_eq (members : Entries Json) :
    furtherMembersChars members =
      members.flatMap fun member => ',' :: (stringChars member.1 ++ ':' :: member.2.chars) := by
  induction members with
  | nil => rfl
  | cons member rest ih => simp [furtherMembersChars, ih]

theorem indented_items_eq (level : Nat) (items : List Json) :
    indentedItems level items =
      items.flatMap fun item => ',' :: (lineStart level ++ item.indentedChars level) := by
  induction items with
  | nil => rfl
  | cons item rest ih => simp [indentedItems, ih]

theorem indented_members_eq (level : Nat) (members : Entries Json) :
    indentedMembers level members =
      members.flatMap fun member =>
        ',' :: (lineStart level ++
          (stringChars member.1 ++ ':' :: ' ' :: member.2.indentedChars level)) := by
  induction members with
  | nil => rfl
  | cons member rest ih => simp [indentedMembers, ih]

theorem member_written {spaces : List Char} (blank : Blank spaces) (name : String) {value : Json}
    {text : List Char} (written : Written value text) :
    MemberWritten Written (name, value) (stringChars name ++ ':' :: (spaces ++ text)) :=
  .member blank_nil blank written

theorem written_chars (json : Json) : Written json json.chars := by
  induction json using inside_induction with
  | null => exact .null
  | bool value => cases value with
    | false => exact .false
    | true => exact .true
  | number value => exact .number value
  | string text => exact .string text
  | array items each =>
      cases items with
      | nil => exact .array (.none blank_nil)
      | cons first rest =>
          have listed := listed_of_texts blank_nil blank_nil ']' each
          simpa [chars, itemsChars, further_items_chars_eq] using Written.array listed
  | object members each =>
      cases members with
      | nil => exact .object (.none blank_nil)
      | cons first rest =>
          have entries (member : String × Json) (among : member ∈ first :: rest) :=
            member_written blank_nil member.1 (each member among)
          have listed := listed_of_texts blank_nil blank_nil '\x7d' entries
          simpa [chars, membersChars, further_members_chars_eq] using Written.object listed

theorem written_indented (json : Json) (level : Nat) : Written json (json.indentedChars level) := by
  induction json using inside_induction generalizing level with
  | null => exact .null
  | bool value => cases value with
    | false => exact .false
    | true => exact .true
  | number value => exact .number value
  | string text => exact .string text
  | array items each =>
      cases items with
      | nil => exact .array (.none blank_nil)
      | cons first rest =>
          have inner (item : Json) (among : item ∈ first :: rest) := each item among (level + 1)
          have listed := listed_of_texts (blank_line_start (level + 1)) (blank_line_start level) ']'
            inner
          simpa [indentedChars, indented_items_eq] using Written.array listed
  | object members each =>
      cases members with
      | nil => exact .object (.none blank_nil)
      | cons first rest =>
          have space : Blank [' '] := by simp [Blank, isSpace]
          have entries (member : String × Json) (among : member ∈ first :: rest) :=
            member_written space member.1 (each member among (level + 1))
          have listed := listed_of_texts (blank_line_start (level + 1)) (blank_line_start level)
            '\x7d' entries
          simpa [indentedChars, indented_members_eq] using Written.object listed

theorem text_is_text_of (json : Json) : IsTextOf json.text json :=
  ⟨[], json.chars, [], blank_nil, written_chars json, blank_nil, by simp [text]⟩

theorem indented_is_text_of (json : Json) : IsTextOf (json.indentedText ++ "\n") json :=
  ⟨[], json.indentedChars 0, ['\n'], blank_nil, written_indented json 0,
    by simp [Blank, isSpace], by simp [indentedText]⟩

end SearchKit.Json
