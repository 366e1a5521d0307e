import Mathlib.Data.List.DropRight
import SearchKit.Text.Basic

/-!
Trimming of texts: what is left of a text stands between the characters that were removed, and a
text in which nothing is removed is what is left of it with such characters around. Neither end of
what is left can be removed.
-/

namespace SearchKit.Text

set_option autoImplicit false

variable {dropped : Char → Bool}

theorem trim_by_splits (dropped : Char → Bool) (text : List Char) :
    ∃ before after, text = before ++ trimBy dropped text ++ after ∧
      (∀ character ∈ before, dropped character = true) ∧
      ∀ character ∈ after, dropped character = true := by
  refine ⟨text.takeWhile dropped,
    ((text.dropWhile dropped).reverse.takeWhile dropped).reverse, ?_, ?_, ?_⟩
  · rw [trimBy, List.append_assoc, ← List.reverse_append, List.takeWhile_append_dropWhile,
      List.reverse_reverse, List.takeWhile_append_dropWhile]
  · exact fun character member => List.mem_takeWhile_imp member
  · intro character member
    rw [List.mem_reverse] at member
    exact List.mem_takeWhile_imp member

theorem drop_while_front {front kept : List Char}
    (trimmed : ∀ character ∈ front, dropped character = true)
    (starts : ∀ character ∈ kept.head?, dropped character = false) :
    (front ++ kept).dropWhile dropped = kept := by
  rw [List.dropWhile_append_of_pos trimmed]
  cases kept with
  | nil => rfl
  | cons first rest => exact List.dropWhile_cons_of_neg (by simpa using starts first rfl)

theorem trim_by_between {before middle after : List Char}
    (front : ∀ character ∈ before, dropped character = true)
    (back : ∀ character ∈ after, dropped character = true)
    (kept : ∀ character ∈ middle, dropped character = false) :
    trimBy dropped (before ++ middle ++ after) = middle := by
  have backwards : ∀ character ∈ after.reverse, dropped character = true := by simpa using back
  have ends : ∀ character ∈ middle.reverse.head?, dropped character = false :=
    fun character last => kept character (List.mem_reverse.mp (List.mem_of_mem_head? last))
  cases middle with
  | nil =>
      have all : ∀ character ∈ before ++ [] ++ after, dropped character = true := by
        simpa using List.forall_mem_append.mpr ⟨front, back⟩
      rw [trimBy, List.dropWhile_eq_nil_iff.mpr all]
      rfl
  | cons first rest =>
      have starts : ∀ character ∈ (first :: rest ++ after).head?, dropped character = false := by
        simpa using kept first (by simp)
      rw [trimBy, List.append_assoc, drop_while_front front starts, List.reverse_append,
        drop_while_front backwards ends, List.reverse_reverse]

theorem trim_by_eq_rdrop_while (dropped : Char → Bool) (text : List Char) :
    trimBy dropped text = (text.dropWhile dropped).rdropWhile dropped := rfl

theorem trim_by_starts (text : List Char) :
    ∀ first ∈ (trimBy dropped text).head?, dropped first = false := by
  intro first isFirst
  obtain ⟨behind, split⟩ := List.rdropWhile_prefix dropped (text.dropWhile dropped)
  rw [← trim_by_eq_rdrop_while] at split
  have kept := List.head?_dropWhile_not dropped text
  rw [← split, List.head?_append, Option.mem_def.mp isFirst] at kept
  exact kept

theorem trim_by_ends (text : List Char) :
    ∀ last ∈ (trimBy dropped text).getLast?, dropped last = false := by
  intro last isLast
  obtain ⟨some, rfl⟩ := List.mem_getLast?_eq_getLast isLast
  exact Bool.eq_false_iff.mpr (List.rdropWhile_last_not dropped (text.dropWhile dropped) some)

theorem trim_by_eq_nil {text : List Char} :
    trimBy dropped text = [] ↔ ∀ character ∈ text, dropped character = true := by
  constructor
  · intro none
    obtain ⟨before, after, split, front, back⟩ := trim_by_splits dropped text
    rw [none, List.append_nil] at split
    rw [split]
    exact List.forall_mem_append.mpr ⟨front, back⟩
  · intro all
    rw [trim_by_eq_rdrop_while, List.dropWhile_eq_nil_iff.mpr all, List.rdropWhile_nil]

theorem trim_end_eq_nil {text : List Char} {dropped : Char} :
    trimEnd dropped text = [] ↔ ∀ character ∈ text, character = dropped := by
  simp [trimEnd]

structure IsTrimmed (text trimmed : String) : Prop where
  inside : ∃ before after, text.toList = before ++ trimmed.toList ++ after ∧
    (∀ character ∈ before, isBlank character = true) ∧
    ∀ character ∈ after, isBlank character = true
  starts : ∀ first ∈ trimmed.toList.head?, isBlank first = false
  ends : ∀ last ∈ trimmed.toList.getLast?, isBlank last = false

theorem is_trimmed_trim (text : String) : IsTrimmed text (trim text) where
  inside := by
    rw [trim, String.toList_ofList]
    exact trim_by_splits isBlank text.toList
  starts := by
    rw [trim, String.toList_ofList]
    exact trim_by_starts text.toList
  ends := by
    rw [trim, String.toList_ofList]
    exact trim_by_ends text.toList

theorem trim_eq_empty_iff (text : String) :
    trim text = "" ↔ ∀ character ∈ text.toList, isBlank character = true := by
  rw [← String.toList_eq_nil_iff, trim, String.toList_ofList, trim_by_eq_nil]

theorem IsTrimmed.subset {text trimmed : String} (isTrimmed : IsTrimmed text trimmed) :
    trimmed.toList ⊆ text.toList := by
  obtain ⟨before, after, split, -, -⟩ := isTrimmed.inside
  rw [split]
  exact fun _ member => List.mem_append_left after (List.mem_append_right before member)

end SearchKit.Text
