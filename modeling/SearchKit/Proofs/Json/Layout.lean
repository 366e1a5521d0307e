import Mathlib.Data.List.Forall2
import SearchKit.Proofs.Json.Lines

/-!
The indented layout. Entries of arrays and objects stand on lines of their own, two spaces further
in than the brackets around them, and a space follows the colon of a member. Every value has one
such text, which is the one that is printed.
-/

namespace SearchKit.Json

set_option autoImplicit false

/-! ## Laid out values -/

/-- Each line that begins in the text begins two spaces further in. -/
def movedIn (text : List Char) : List Char :=
  text.flatMap fun character => if character = '\n' then ['\n', ' ', ' '] else [character]

/-- Texts of entries between brackets, each on lines of its own. -/
def enclosed (opening closing : Char) (texts : List (List Char)) : List Char :=
  opening :: ([','].intercalate (texts.map fun text => movedIn ('\n' :: text)) ++ ['\n', closing])

inductive MemberLaid (value : Json → List Char → Prop) : String × Json → List Char → Prop
  | member {name : String} {json : Json} {text : List Char} (laid : value json text) :
      MemberLaid value (name, json) (stringChars name ++ ':' :: ' ' :: text)

/-- The indented text of a value. Without anything inside it is written as in every layout. -/
inductive Laid : Json → List Char → Prop
  | plain {json : Json} {text : List Char} (plain : Fits 0 json) (written : Written json text) :
      Laid json text
  | emptyArray : Laid (.array []) ['[', ']']
  | emptyObject : Laid (.object []) ['\x7b', '\x7d']
  | array {items : List Json} {texts : List (List Char)} (nonempty : items ≠ [])
      (each : List.Forall₂ Laid items texts) : Laid (.array items) (enclosed '[' ']' texts)
  | object {members : Entries Json} {texts : List (List Char)} (nonempty : members ≠ [])
      (each : List.Forall₂ (MemberLaid Laid) members texts) :
      Laid (.object members) (enclosed '\x7b' '\x7d' texts)

/-! ## Lines further in -/

theorem moved_in_append (left right : List Char) :
    movedIn (left ++ right) = movedIn left ++ movedIn right := List.flatMap_append

theorem moved_in_cons {first : Char} (sameLine : first ≠ '\n') (rest : List Char) :
    movedIn (first :: rest) = first :: movedIn rest := by
  simp [movedIn, sameLine]

theorem moved_in_line_start (level : Nat) : movedIn (lineStart level) = lineStart (level + 1) := by
  have spaces (count : Nat) : movedIn (List.replicate count ' ') = List.replicate count ' ' := by
    induction count with
    | zero => rfl
    | succ count ih => rw [List.replicate_succ, moved_in_cons (by decide), ih]
  have start : movedIn (lineStart level) =
      '\n' :: ' ' :: ' ' :: movedIn (List.replicate (2 * level) ' ') := rfl
  rw [start, spaces]
  rfl

theorem moved_in_of_printable {text : List Char}
    (printable : ∀ character ∈ text, Printable character) : movedIn text = text := by
  induction text with
  | nil => rfl
  | cons first rest ih =>
      rw [List.forall_mem_cons] at printable
      have sameLine : first ≠ '\n' := by
        rintro rfl
        exact absurd printable.1 (by decide)
      rw [moved_in_cons sameLine, ih printable.2]

theorem moved_in_name (name : String) (text : List Char) :
    movedIn (stringChars name ++ ':' :: ' ' :: text) =
      stringChars name ++ ':' :: ' ' :: movedIn text := by
  rw [moved_in_append, moved_in_of_printable (printable_string_chars name),
    moved_in_cons (by decide), moved_in_cons (by decide)]

theorem moved_in_entries {α : Type} {entries : List α} {text moved : α → List Char}
    (each : ∀ entry ∈ entries, movedIn (text entry) = moved entry) :
    movedIn (entries.flatMap fun entry => ',' :: text entry) =
      entries.flatMap fun entry => ',' :: moved entry := by
  induction entries with
  | nil => rfl
  | cons entry rest ih =>
      rw [List.forall_mem_cons] at each
      rw [List.flatMap_cons, List.flatMap_cons, moved_in_append, moved_in_cons (by decide),
        each.1, ih each.2]

/-- A value moved in is the value on the next level. -/
theorem moved_in_indented (json : Json) (level : Nat) :
    movedIn (json.indentedChars level) = json.indentedChars (level + 1) := by
  induction json using inside_induction generalizing level with
  | null => rfl
  | bool value => cases value <;> rfl
  | number value => exact moved_in_of_printable (printable_chars (.number value))
  | string text => exact moved_in_of_printable (printable_string_chars text)
  | array items each =>
      cases items with
      | nil => rfl
      | cons first rest =>
          rw [List.forall_mem_cons] at each
          have further :
              movedIn (indentedItems (level + 1) rest) = indentedItems (level + 1 + 1) rest := by
            rw [indented_items_eq, indented_items_eq]
            apply moved_in_entries
            intro item among
            rw [moved_in_append, moved_in_line_start, each.2 item among]
          have bracket : movedIn [']'] = [']'] := rfl
          simp only [indentedChars, moved_in_cons (by decide : '[' ≠ '\n'), moved_in_append,
            moved_in_line_start, each.1, further, bracket]
  | object members each =>
      cases members with
      | nil => rfl
      | cons first rest =>
          rw [List.forall_mem_cons] at each
          have further :
              movedIn (indentedMembers (level + 1) rest) = indentedMembers (level + 1 + 1) rest := by
            rw [indented_members_eq, indented_members_eq]
            apply moved_in_entries
            intro member among
            rw [moved_in_append, moved_in_line_start, moved_in_name, each.2 member among]
          have colon : movedIn [':', ' '] = [':', ' '] := rfl
          have bracket : movedIn ['\x7d'] = ['\x7d'] := rfl
          simp only [indentedChars, moved_in_cons (by decide : '\x7b' ≠ '\n'), moved_in_append,
            moved_in_line_start, moved_in_of_printable (printable_string_chars first.1), colon,
            each.1, further, bracket]

/-! ## The printed text -/

theorem intercalate_cons (first : List Char) (rest : List (List Char)) :
    [','].intercalate (first :: rest) = first ++ rest.flatMap fun text => ',' :: text := by
  induction rest generalizing first with
  | nil => simp
  | cons second rest ih =>
      rw [List.intercalate_cons_cons, ih, List.flatMap_cons, List.append_assoc,
        List.singleton_append, List.cons_append]

theorem moved_in_line (text : List Char) :
    movedIn ('\n' :: text) = lineStart 1 ++ movedIn text := rfl

theorem enclosed_items (first : Json) (rest : List Json) :
    enclosed '[' ']' ((first :: rest).map (indentedChars 0)) =
      indentedChars 0 (.array (first :: rest)) := by
  have last : lineStart 0 = ['\n'] := rfl
  simp [enclosed, intercalate_cons, moved_in_line, moved_in_indented, indentedChars,
    indented_items_eq, last, List.flatMap_map]

theorem enclosed_members (first : String × Json) (rest : Entries Json) :
    enclosed '\x7b' '\x7d' ((first :: rest).map fun member =>
        stringChars member.1 ++ ':' :: ' ' :: member.2.indentedChars 0) =
      indentedChars 0 (.object (first :: rest)) := by
  have last : lineStart 0 = ['\n'] := rfl
  simp [enclosed, intercalate_cons, moved_in_line, moved_in_name, moved_in_indented,
    indentedChars, indented_members_eq, last, List.flatMap_map]

/-- Lists of entries with exactly one text each have exactly one list of texts. -/
theorem forall₂_eq_map_iff {α : Type} {laid : α → List Char → Prop} {print : α → List Char}
    {entries : List α} (each : ∀ entry ∈ entries, ∀ text, laid entry text ↔ text = print entry)
    (texts : List (List Char)) :
    List.Forall₂ laid entries texts ↔ texts = entries.map print := by
  induction entries generalizing texts with
  | nil => simp
  | cons entry rest ih =>
      rw [List.forall_mem_cons] at each
      cases texts with
      | nil => simp
      | cons text more => simp [each.1, ih each.2]

theorem laid_iff_of_plain {json : Json} (plain : Fits 0 json) (text : List Char) :
    Laid json text ↔ text = json.indentedChars 0 := by
  constructor
  · intro laid
    cases laid with
    | plain _ written =>
        cases written with
        | null | true | false | number _ | string _ => rfl
        | array _ => exact plain.elim
        | object _ => exact plain.elim
    | emptyArray | emptyObject => exact plain.elim
    | array _ _ => exact plain.elim
    | object _ _ => exact plain.elim
  · rintro rfl
    exact .plain plain (written_indented json 0)

theorem member_laid_iff {member : String × Json}
    (value : ∀ text, Laid member.2 text ↔ text = member.2.indentedChars 0) (text : List Char) :
    MemberLaid Laid member text ↔
      text = stringChars member.1 ++ ':' :: ' ' :: member.2.indentedChars 0 := by
  constructor
  · intro laid
    cases laid with
    | member laid => rw [(value _).mp laid]
  · rintro rfl
    exact .member ((value _).mpr rfl)

/-- A value is laid out in one way, and that is how it is printed. -/
theorem laid_iff (json : Json) (text : List Char) :
    Laid json text ↔ text = json.indentedChars 0 := by
  induction json using inside_induction generalizing text with
  | null => exact laid_iff_of_plain (fits_null 0) text
  | bool value => exact laid_iff_of_plain (fits_bool 0 value) text
  | number value => exact laid_iff_of_plain (fits_number 0 value) text
  | string value => exact laid_iff_of_plain (fits_string 0 value) text
  | array items each =>
      have listed := forall₂_eq_map_iff each
      constructor
      · intro laid
        cases laid with
        | plain plain _ => exact plain.elim
        | emptyArray => rfl
        | array nonempty laid =>
            obtain ⟨first, rest, rfl⟩ := List.exists_cons_of_ne_nil nonempty
            rw [(listed _).mp laid, enclosed_items]
      · rintro rfl
        cases items with
        | nil => exact .emptyArray
        | cons first rest =>
            rw [← enclosed_items]
            exact .array (List.cons_ne_nil first rest) ((listed _).mpr rfl)
  | object members each =>
      have listed := forall₂_eq_map_iff fun member among => member_laid_iff (each member among)
      constructor
      · intro laid
        cases laid with
        | plain plain _ => exact plain.elim
        | emptyObject => rfl
        | object nonempty laid =>
            obtain ⟨first, rest, rfl⟩ := List.exists_cons_of_ne_nil nonempty
            rw [(listed _).mp laid, enclosed_members]
      · rintro rfl
        cases members with
        | nil => exact .emptyObject
        | cons first rest =>
            rw [← enclosed_members]
            exact .object (List.cons_ne_nil first rest) ((listed _).mpr rfl)

theorem laid_iff_indented_text (json : Json) (inside : List Char) :
    Laid json inside ↔ json.indentedText ++ "\n" = String.ofList inside ++ "\n" := by
  rw [laid_iff, indentedText]
  constructor
  · rintro rfl
    rfl
  · intro same
    have chars := congrArg String.toList same
    simp only [String.toList_append, String.toList_ofList] at chars
    exact (List.append_cancel_right chars).symm

/-- The lines of an array with an object and an empty array in it. -/
example : Laid (.array [.single "a" (.ofUInt64 1), .array []])
    "[\n  \x7b\n    \"a\": 1\n  \x7d,\n  []\n]".toList := by
  rw [laid_iff]
  decide

end SearchKit.Json
