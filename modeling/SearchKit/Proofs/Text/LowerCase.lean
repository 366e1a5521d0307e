import Mathlib.Data.List.Forall2
import SearchKit.Proofs.Text.Cutting
import SearchKit.Text.LowerCase

/-!
Lower-casing and cutting change places. A mark that has no case and that is not looked through keeps
the words on its two sides apart, so a text in lower case is cut at it into the parts of the text,
each in lower case on its own.
-/

namespace SearchKit.Text

set_option autoImplicit false

theorem to_lower_cases (character : Char) :
    character.toLower = character ∨
      (65 ≤ character.toNat ∧ character.toNat ≤ 90 ∧
        character.toLower.toNat = character.toNat + 32) := by
  unfold Char.toLower
  split
  · rename_i upper
    have least : 65 ≤ character.val.toNat := upper.1
    have greatest : character.val.toNat ≤ 90 := upper.2
    have gap : ('a'.val - 'A'.val).toNat = 32 := by decide
    refine .inr ⟨least, greatest, ?_⟩
    simp only [Char.toNat]
    rw [UInt32.toNat_add, gap]
    omega
  · exact .inl rfl

/-- A character whose small letter is no letter is that small letter. -/
theorem eq_of_to_lower {character small : Char} (lowered : character.toLower = small)
    (noLetter : small.toNat < 97) : character = small := by
  rcases to_lower_cases character with same | ⟨least, -, shifted⟩
  · exact same.symm.trans lowered
  · rw [lowered] at shifted
    omega

/-- A small letter of ASCII, whose capital stands 32 places before it. -/
def IsSmallLetter (letter : Char) : Prop :=
  letter.toLower = letter ∧ letter.toUpper.toLower = letter ∧
    letter.toUpper.toNat + 32 = letter.toNat

instance (letter : Char) : Decidable (IsSmallLetter letter) :=
  inferInstanceAs (Decidable (_ ∧ _ ∧ _))

theorem to_lower_eq_iff {letter : Char} (small : IsSmallLetter letter) (character : Char) :
    character.toLower = letter ↔ character = letter ∨ character = letter.toUpper := by
  obtain ⟨own, ofCapital, paired⟩ := small
  constructor
  · intro lowered
    rcases to_lower_cases character with same | ⟨-, -, shifted⟩
    · exact .inl (same.symm.trans lowered)
    · right
      rw [lowered] at shifted
      apply Char.toNat_inj.mp
      omega
  · rintro (rfl | rfl)
    · exact own
    · exact ofCapital

theorem map_to_lower_eq_iff {letters : List Char} (small : ∀ letter ∈ letters, IsSmallLetter letter)
    (characters : List Char) :
    characters.map Char.toLower = letters ↔
      List.Forall₂ (fun character letter => character = letter ∨ character = letter.toUpper)
        characters letters := by
  induction characters generalizing letters with
  | nil => simp [eq_comm]
  | cons character rest ih =>
      cases letters with
      | nil => simp
      | cons letter further =>
          obtain ⟨isSmall, others⟩ := List.forall_mem_cons.mp small
          rw [List.map_cons, List.cons.injEq, List.forall₂_cons, ih others,
            to_lower_eq_iff isSmall]

/-! ## Marks -/

/-- A character that is no letter and has no part in how others are lower-cased. -/
structure IsMark (mark : Char) : Prop where
  notCased : isCased mark = false
  notIgnorable : isCaseIgnorable mark = false
  notSigma : mark ≠ 'Σ' ∧ mark ≠ 'σ' ∧ mark ≠ 'ς'
  own : lowerCharacter mark = [mark]
  /-- No other character has it in its lower-case form. -/
  alone : ∀ character, mark ∈ lowerCharacter character → character = mark

theorem lower_runs_above : ∀ run ∈ CaseTable.lowerRuns, 65 ≤ (run.first : Int) + run.offset := by
  decide +kernel

theorem run_image_cases {character image : Char}
    (found : runImage? CaseTable.lowerRuns character = some image) :
    image.toNat = 0 ∨ 65 ≤ image.toNat := by
  obtain ⟨run, covered, same⟩ := Option.map_eq_some_iff.mp found
  have above := lower_runs_above run (List.mem_of_find?_eq_some covered)
  have covers := List.find?_some covered
  simp only [MappedRun.covers, Bool.and_eq_true, decide_eq_true_eq] at covers
  have bound : 65 ≤ Int.toNat (character.toNat + run.offset) := by
    have first : (run.first : Int) ≤ character.toNat := Int.ofNat_le.mpr covers.1.1
    omega
  subst same
  by_cases valid : (Int.toNat (character.toNat + run.offset)).isValidChar
  · right
    rw [Char.ofNat, dif_pos valid]
    exact bound
  · left
    rw [Char.ofNat, dif_neg valid]
    rfl

theorem is_mark_hash : IsMark '#' where
  notCased := by decide +kernel
  notIgnorable := by decide +kernel
  notSigma := by decide
  own := by decide
  alone := by
    intro character member
    unfold lowerCharacter at member
    split at member
    · rw [List.mem_singleton] at member
      exact eq_of_to_lower member.symm (by decide)
    · rename_i beyond
      split at member
      · exact absurd member (by decide)
      · rw [List.mem_singleton] at member
        cases found : runImage? CaseTable.lowerRuns character with
        | none =>
            rw [found] at member
            exact member.symm
        | some image =>
            rw [found] at member
            have isImage : '#' = image := member
            rcases run_image_cases found with none | above
            · rw [← isImage] at none
              exact absurd none (by decide)
            · rw [← isImage] at above
              exact absurd above (by decide)

/-! ## Parts -/

section Mark

variable {mark : Char} (isMark : IsMark mark)

include isMark in
theorem meets_cased_of_mark (near far : List Char) :
    meetsCased (near ++ mark :: far) = meetsCased near := by
  induction near with
  | nil => simp [meetsCased, isMark.notCased, isMark.notIgnorable]
  | cons character rest ih => simp [meetsCased, ih]

include isMark in
theorem lower_sigma_of_mark (near far after beyond : List Char) :
    lowerSigma (near ++ mark :: far) after = lowerSigma near after ∧
      lowerSigma near (after ++ mark :: beyond) = lowerSigma near after := by
  simp only [lowerSigma, meets_cased_of_mark isMark]
  exact ⟨trivial, trivial⟩

include isMark in
/-- The text before a mark has no part in how the text behind it is lower-cased. -/
theorem lower_after_of_mark (near far part : List Char) :
    lowerAfter (near ++ mark :: far) part = lowerAfter near part := by
  induction part generalizing near with
  | nil => rfl
  | cons character rest ih =>
      have further := ih (character :: near)
      rw [List.cons_append] at further
      rw [lowerAfter, lowerAfter, further, (lower_sigma_of_mark isMark near far rest []).1]

include isMark in
theorem lower_after_append_mark (before part rest : List Char) :
    lowerAfter before (part ++ mark :: rest) =
      lowerAfter before part ++ mark :: lowerAfter [] rest := by
  induction part generalizing before with
  | nil =>
      have apart := lower_after_of_mark isMark [] before rest
      rw [List.nil_append] at apart
      rw [List.nil_append, lowerAfter.eq_2, if_neg isMark.notSigma.1, isMark.own, apart]
      rfl
  | cons character more ih =>
      rw [List.cons_append, lowerAfter, lowerAfter, ih, List.append_assoc,
        (lower_sigma_of_mark isMark before [] more rest).2]

include isMark in
theorem mark_not_mem_lower_after {part : List Char} (absent : mark ∉ part) (before : List Char) :
    mark ∉ lowerAfter before part := by
  induction part generalizing before with
  | nil => simp [lowerAfter]
  | cons character rest ih =>
      rw [List.mem_cons, not_or] at absent
      rw [lowerAfter, List.mem_append, not_or]
      refine ⟨?_, ih absent.2 _⟩
      split
      · rw [List.mem_singleton, lowerSigma]
        split
        · exact isMark.notSigma.2.2
        · exact isMark.notSigma.2.1
      · intro member
        exact absent.1 (isMark.alone character member).symm

include isMark in
theorem is_cut_lower {text : String} {parts : List String} (cut : IsCut mark text parts) :
    IsCut mark (lower text) (parts.map lower) where
  some_part := by simpa using cut.some_part
  apart := by
    intro part member
    obtain ⟨own, present, rfl⟩ := List.mem_map.mp member
    rw [lower, String.toList_ofList]
    exact mark_not_mem_lower_after isMark (cut.apart own present) []
  joined := by
    apply String.toList_injective
    rw [← cut.joined, lower, String.toList_ofList, to_list_join, to_list_join]
    have some := cut.some_part
    clear cut
    induction parts with
    | nil => contradiction
    | cons part rest ih =>
        cases rest with
        | nil => simp [lower]
        | cons second further =>
            have joined := ih (by simp)
            simp only [List.map_cons] at joined ⊢
            rw [List.intercalate_cons_cons, List.intercalate_cons_cons, List.append_assoc,
              List.append_assoc, List.singleton_append, List.singleton_append,
              lower_after_append_mark isMark, joined, lower, String.toList_ofList]

end Mark

theorem lower_character_ne_nil (character : Char) : lowerCharacter character ≠ [] := by
  unfold lowerCharacter
  split
  · simp
  · split <;> simp

theorem lower_eq_empty_iff (text : String) : lower text = "" ↔ text = "" := by
  have chars : lowerAfter [] text.toList = [] ↔ text.toList = [] := by
    cases text.toList with
    | nil => simp [lowerAfter]
    | cons character rest =>
        simp only [lowerAfter, List.append_eq_nil_iff, reduceCtorEq, iff_false, not_and]
        intro none
        split at none
        · contradiction
        · exact absurd none (lower_character_ne_nil character)
  rw [← String.toList_eq_nil_iff, lower, String.toList_ofList, chars, String.toList_eq_nil_iff]

end SearchKit.Text
