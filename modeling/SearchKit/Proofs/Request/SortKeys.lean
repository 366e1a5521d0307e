import SearchKit.Proofs.Text.LowerCase
import SearchKit.Request.Order

/-!
How sort keys are written: the name of a field alone, or with a colon and a direction behind it. A
name that goes with a direction may hold colons itself, since only the last one counts.
-/

namespace SearchKit

set_option autoImplicit false

/-- The word of a direction, with capitals in place of any of its letters. -/
def Direction.Spells (direction : Direction) (word : String) : Prop :=
  List.Forall₂ (fun character letter => character = letter ∨ character = letter.toUpper)
    word.toList direction.word.toList

theorem Direction.spells_word (direction : Direction) : direction.Spells direction.word :=
  List.forall₂_same.mpr fun _ _ => .inl rfl

theorem Direction.colon_not_mem_word (direction : Direction) : ':' ∉ direction.word.toList := by
  cases direction <;> decide +kernel

namespace Order

inductive Written : String → Order → Prop where
  | plain {name : String} (named : name ≠ "") (noColon : ':' ∉ name.toList) :
      Written name ⟨name, .ascending⟩
  | directed {name word : String} {direction : Direction} (named : name ≠ "")
      (noColon : ':' ∉ word.toList) (spelled : direction.Spells word) :
      Written (name ++ ":" ++ word) ⟨name, direction⟩

theorem lower_ascii_eq_word_iff (direction : Direction) (word : String) :
    lowerAscii word = direction.word ↔ direction.Spells word := by
  have small : ∀ letter ∈ direction.word.toList, Text.IsSmallLetter letter := by
    cases direction <;> simp [Direction.word, Text.IsSmallLetter]
  rw [Direction.Spells, ← Text.map_to_lower_eq_iff small, lowerAscii, ← String.toList_inj,
    String.toList_ofList]

theorem named_eq_ok (name : String) (direction : Direction) (order : Order) :
    (if name.isEmpty then .error Refusal.orderNameMissing else .ok ⟨name, direction⟩) =
        Except.ok order ↔ name ≠ "" ∧ order = ⟨name, direction⟩ := by
  rw [eq_comm (a := order)]
  by_cases empty : name = "" <;> simp [empty]

theorem of_text_of_no_colon {text : String} (whole : Text.splitLast ':' text = none)
    (order : Order) : ofText text = .ok order ↔ text ≠ "" ∧ order = ⟨text, .ascending⟩ := by
  rw [ofText, whole]
  exact named_eq_ok text .ascending order

theorem of_text_of_colon {text name word : String}
    (cut : Text.splitLast ':' text = some (name, word)) (order : Order) :
    ofText text = .ok order ↔
      name ≠ "" ∧ ∃ direction, direction.Spells word ∧ order = ⟨name, direction⟩ := by
  simp only [ofText, cut, ← lower_ascii_eq_word_iff]
  have only {lowered : String} {spelled : Direction} (isWord : lowered = spelled.word)
      (direction : Direction) : lowered = direction.word ↔ direction = spelled := by
    rw [isWord]
    cases spelled <;> cases direction <;> decide
  split
  · rename_i isAscending
    have spelled : lowerAscii word = Direction.ascending.word := isAscending
    simp only [named_eq_ok, only spelled, exists_eq_left]
  · rename_i isDescending
    have spelled : lowerAscii word = Direction.descending.word := isDescending
    simp only [named_eq_ok, only spelled, exists_eq_left]
  · rename_i notAscending notDescending
    simp only [reduceCtorEq, false_iff, not_and, not_exists]
    intro _ direction isWord
    cases direction with
    | ascending => exact absurd isWord notAscending
    | descending => exact absurd isWord notDescending

theorem of_text_eq_ok_iff (text : String) (order : Order) :
    ofText text = .ok order ↔ Written text order := by
  constructor
  · intro read
    cases cut : Text.splitLast ':' text with
    | none =>
        obtain ⟨named, rfl⟩ := (of_text_of_no_colon cut order).mp read
        exact .plain named (Text.split_last_eq_none.mp cut)
    | some parts =>
        obtain ⟨name, word⟩ := parts
        obtain ⟨named, direction, spelled, rfl⟩ := (of_text_of_colon cut order).mp read
        obtain ⟨split, last⟩ := Text.split_last_eq_some.mp cut
        rw [split]
        exact .directed named last spelled
  · intro written
    cases written with
    | plain named noColon =>
        have cut := Text.split_last_eq_none.mpr noColon
        exact (of_text_of_no_colon cut _).mpr ⟨named, rfl⟩
    | @directed name word direction named noColon spelled =>
        have cut : Text.splitLast ':' (name ++ ":" ++ word) = some (name, word) :=
          Text.split_last_eq_some.mpr ⟨rfl, noColon⟩
        exact (of_text_of_colon cut _).mpr ⟨named, direction, spelled, rfl⟩

theorem written_with_word {name : String} (named : name ≠ "") (direction : Direction) :
    Written (name ++ ":" ++ direction.word) ⟨name, direction⟩ :=
  .directed named direction.colon_not_mem_word direction.spells_word

theorem Written.named {text : String} {order : Order} (written : Written text order) :
    order.name ≠ "" := by
  cases written <;> assumption

theorem named_of_all_written {texts : List String} {orders : List Order}
    (written : List.Forall₂ Written texts orders) : ∀ order ∈ orders, order.name ≠ "" := by
  induction written with
  | nil => simp
  | cons first _ ih => exact List.forall_mem_cons.mpr ⟨first.named, ih⟩

end Order

end SearchKit
