import Mathlib.Data.List.Basic
import SearchKit.Text.Basic

/-!
Cutting a text at a separator as a relation. The parts hold no separator, and put together with one
separator between neighbours they are the text again. Every text is cut in exactly one way. Lines
that all end with the separator are the parts of their text, with nothing behind the last one. A
text may also be cut at its last separator alone.
-/

namespace SearchKit.Text

set_option autoImplicit false

structure IsCut (separator : Char) (text : String) (parts : List String) : Prop where
  some_part : parts ≠ []
  apart : ∀ part ∈ parts, separator ∉ part.toList
  joined : join (String.singleton separator) parts = text

theorem split_chars_eq_split_on (separator : Char) (characters : List Char) :
    splitChars separator characters = characters.splitOn separator := by
  induction characters with
  | nil => rfl
  | cons character rest ih =>
      rw [splitChars, ih, List.splitOn_cons_eq_if_modifyHead]
      by_cases same : character = separator
      · simp [same]
      · have parts := List.splitOn_ne_nil separator rest
        cases cut : rest.splitOn separator with
        | nil => exact absurd cut parts
        | cons part further => simp [same]

theorem separator_not_mem_split_on (separator : Char) (characters part : List Char)
    (member : part ∈ characters.splitOn separator) : separator ∉ part := by
  induction characters generalizing part with
  | nil =>
      have empty : part = [] := by simpa using member
      simp [empty]
  | cons character rest ih =>
      rw [List.splitOn_cons_eq_if_modifyHead] at member
      by_cases same : character = separator
      · have cases : part = [] ∨ part ∈ rest.splitOn separator := by simpa [same] using member
        rcases cases with empty | later
        · simp [empty]
        · exact ih part later
      · have parts := List.splitOn_ne_nil separator rest
        cases cut : rest.splitOn separator with
        | nil => exact absurd cut parts
        | cons first further =>
            simp only [cut, List.modifyHead_cons, beq_iff_eq, same, if_false, List.mem_cons]
              at member
            rcases member with extended | later
            · have inFirst := ih first (by simp [cut])
              simp [extended, inFirst, Ne.symm same]
            · exact ih part (by simp [cut, later])

theorem to_list_join (separator : Char) (parts : List String) :
    (join (String.singleton separator) parts).toList =
      [separator].intercalate (parts.map String.toList) := by
  simp [join, String.toList_intercalate]

theorem is_cut_split (separator : Char) (text : String) :
    IsCut separator text (split separator text) where
  some_part := by simp [split, split_chars_eq_split_on, List.splitOn_ne_nil]
  apart := by
    intro part member
    simp only [split, split_chars_eq_split_on, List.mem_map] at member
    obtain ⟨characters, cut, rfl⟩ := member
    simpa using separator_not_mem_split_on separator text.toList characters cut
  joined := by
    apply String.toList_injective
    simp [to_list_join, split, split_chars_eq_split_on, Function.comp_def]

theorem split_eq_of_is_cut {separator : Char} {text : String} {parts : List String}
    (cut : IsCut separator text parts) : split separator text = parts := by
  have joined := congrArg String.toList cut.joined
  rw [to_list_join] at joined
  have recovered : text.toList.splitOn separator = parts.map String.toList := by
    rw [← joined]
    apply List.splitOn_intercalate
    · intro characters member
      obtain ⟨part, present, rfl⟩ := List.mem_map.mp member
      exact cut.apart part present
    · simpa using cut.some_part
  simp [split, split_chars_eq_split_on, recovered, Function.comp_def]

theorem split_eq_iff_is_cut {separator : Char} {text : String} {parts : List String} :
    split separator text = parts ↔ IsCut separator text parts := by
  constructor
  · intro same
    rw [← same]
    exact is_cut_split separator text
  · exact split_eq_of_is_cut

theorem IsCut.mem_iff {separator : Char} {text : String} {parts : List String}
    (cut : IsCut separator text parts) {character : Char} (other : character ≠ separator) :
    character ∈ text.toList ↔ ∃ part ∈ parts, character ∈ part.toList := by
  have joined := congrArg String.toList cut.joined
  rw [to_list_join] at joined
  rw [← joined]
  clear cut joined
  induction parts with
  | nil => simp
  | cons part rest ih =>
      cases rest with
      | nil => simp
      | cons second further =>
          simp only [List.map_cons] at ih ⊢
          simp [List.intercalate_cons_cons, ih, other]

/-! ## Parts that are cut themselves -/

theorem split_chars_ne_nil (separator : Char) (characters : List Char) :
    splitChars separator characters ≠ [] := by
  rw [split_chars_eq_split_on]
  exact List.splitOn_ne_nil separator characters

/-- A separator cuts what is before it from what is behind it, wherever else these are cut. -/
theorem split_chars_append (separator : Char) (before after : List Char) :
    splitChars separator (before ++ separator :: after) =
      splitChars separator before ++ splitChars separator after := by
  induction before with
  | nil => simp [splitChars]
  | cons character rest ih =>
      rw [List.cons_append, splitChars, ih]
      by_cases same : character = separator
      · simp [splitChars, same]
      · cases cut : splitChars separator rest with
        | nil => exact absurd cut (split_chars_ne_nil separator rest)
        | cons part parts => simp [splitChars, same, cut]

theorem split_join (separator : Char) {parts : List String} (some : parts ≠ []) :
    split separator (join (String.singleton separator) parts) =
      parts.flatMap (split separator) := by
  induction parts with
  | nil => contradiction
  | cons part rest ih =>
      cases rest with
      | nil => simp [split, to_list_join]
      | cons second further =>
          rw [List.flatMap_cons, ← ih (by simp)]
          simp only [split, to_list_join, List.map_cons, List.intercalate_cons_cons,
            List.append_assoc, List.singleton_append, split_chars_append, List.map_append]

/-! ## The last separator -/

theorem split_last_chars_eq_none {separator : Char} {text : List Char} :
    splitLastChars separator text = none ↔ separator ∉ text := by
  induction text with
  | nil => simp [splitLastChars]
  | cons character rest ih =>
      rw [splitLastChars, List.mem_cons, not_or, ← ih]
      cases splitLastChars separator rest with
      | none => simp [eq_comm]
      | some parts => simp

theorem split_last_chars_some {separator : Char} {text before after : List Char}
    (cut : splitLastChars separator text = some (before, after)) :
    text = before ++ separator :: after ∧ separator ∉ after := by
  induction text generalizing before with
  | nil => contradiction
  | cons character rest ih =>
      rw [splitLastChars] at cut
      cases later : splitLastChars separator rest with
      | none =>
          simp only [later, Option.ite_none_right_eq_some, Option.some.injEq, Prod.mk.injEq] at cut
          obtain ⟨rfl, rfl, rfl⟩ := cut
          exact ⟨rfl, split_last_chars_eq_none.mp later⟩
      | some parts =>
          simp only [later, Option.some.injEq, Prod.mk.injEq] at cut
          obtain ⟨rfl, rfl⟩ := cut
          obtain ⟨split, last⟩ := ih later
          exact ⟨congrArg (character :: ·) split, last⟩

theorem split_last_chars_of_last {separator : Char} {after : List Char} (last : separator ∉ after)
    (before : List Char) :
    splitLastChars separator (before ++ separator :: after) = some (before, after) := by
  induction before with
  | nil => simp [splitLastChars, split_last_chars_eq_none.mpr last]
  | cons character rest ih => rw [List.cons_append, splitLastChars, ih]

theorem split_last_eq_none {separator : Char} {text : String} :
    splitLast separator text = none ↔ separator ∉ text.toList := by
  rw [splitLast, Option.map_eq_none_iff, split_last_chars_eq_none]

theorem split_last_eq_some {separator : Char} {text before after : String} :
    splitLast separator text = some (before, after) ↔
      text = before ++ String.singleton separator ++ after ∧ separator ∉ after.toList := by
  rw [splitLast, Option.map_eq_some_iff]
  constructor
  · rintro ⟨⟨front, back⟩, cut, same⟩
    rw [Prod.mk.injEq] at same
    obtain ⟨rfl, rfl⟩ := same
    obtain ⟨split, last⟩ := split_last_chars_some cut
    refine ⟨String.toList_injective ?_, by simpa using last⟩
    simpa using split
  · rintro ⟨rfl, last⟩
    refine ⟨(before.toList, after.toList), ?_, by simp⟩
    simpa using split_last_chars_of_last last before.toList

/-! ## Lines that end -/

theorem split_chars_whole {separator : Char} {text : List Char} (apart : separator ∉ text) :
    splitChars separator text = [text] := by
  induction text with
  | nil => rfl
  | cons first rest ih =>
      rw [List.mem_cons, not_or] at apart
      rw [splitChars, if_neg (Ne.symm apart.1), ih apart.2]

theorem split_chars_line {separator : Char} {line : List Char} (apart : separator ∉ line)
    (rest : List Char) :
    splitChars separator (line ++ separator :: rest) = line :: splitChars separator rest := by
  rw [split_chars_append, split_chars_whole apart, List.singleton_append]

theorem split_chars_lines {separator : Char} {lines : List (List Char)}
    (apart : ∀ line ∈ lines, separator ∉ line) :
    splitChars separator (lines.flatMap (· ++ [separator])) = lines ++ [[]] := by
  induction lines with
  | nil => rfl
  | cons line rest ih =>
      rw [List.forall_mem_cons] at apart
      rw [List.flatMap_cons, List.append_assoc, List.singleton_append,
        split_chars_line apart.1, ih apart.2, List.cons_append]

theorem to_list_join_ended (separator : Char) {parts : List String} (some : parts ≠ []) :
    (join (String.singleton separator) parts).toList ++ [separator] =
      (parts.map String.toList).flatMap (· ++ [separator]) := by
  rw [to_list_join]
  induction parts with
  | nil => contradiction
  | cons part rest ih =>
      cases rest with
      | nil => simp
      | cons second further =>
          have joined := ih (by simp)
          rw [List.map_cons] at joined ⊢
          rw [List.map_cons, List.intercalate_cons_cons, List.append_assoc, joined]
          rfl

theorem split_ended {separator : Char} {parts : List String} (some : parts ≠ [])
    (apart : ∀ part ∈ parts, separator ∉ part.toList) :
    split separator (join (String.singleton separator) parts ++ String.singleton separator) =
      parts ++ [""] := by
  have chars : ∀ line ∈ parts.map String.toList, separator ∉ line := by
    intro line member
    obtain ⟨part, present, rfl⟩ := List.mem_map.mp member
    exact apart part present
  rw [split, String.toList_append, String.toList_singleton, to_list_join_ended separator some,
    split_chars_lines chars]
  simp [Function.comp_def]

end SearchKit.Text
