import Mathlib.Data.List.Nodup
import SearchKit.Json.Entries

/-!
Named values under repeated putting. What is put is found, what is there already is not changed by
putting it again, and names that are distinct stay so.
-/

namespace SearchKit

set_option autoImplicit false

namespace Entries

variable {α : Type}

def putAll (entries base : Entries α) : Entries α :=
  entries.foldl (fun members entry => put entry.1 entry.2 members) base

theorem put_of_find {name : String} {value : α} {entries : Entries α}
    (present : find? name entries = some value) : put name value entries = entries := by
  induction entries with
  | nil => simp [find?] at present
  | cons head rest ih =>
      obtain ⟨other, old⟩ := head
      by_cases same : other = name
      · have unchanged : old = value := by simpa [find?, same] using present
        simp [put, same, unchanged]
      · have later : find? name rest = some value := by simpa [find?, same] using present
        simp [put, same, ih later]

theorem put_of_not_mem {name : String} (value : α) {entries : Entries α}
    (absent : name ∉ names entries) : put name value entries = entries ++ [(name, value)] := by
  induction entries with
  | nil => rfl
  | cons head rest ih =>
      obtain ⟨other, old⟩ := head
      have different : other ≠ name := by
        intro same
        exact absent (by simp [names, same])
      have later : name ∉ names rest := by
        intro member
        exact absent (List.mem_cons_of_mem _ member)
      simp [put, different, ih later]

theorem exists_first_of_mem {name : String} {entries : Entries α} (present : name ∈ names entries) :
    ∃ before value after, entries = before ++ (name, value) :: after ∧ name ∉ names before := by
  induction entries with
  | nil => simp [names] at present
  | cons head rest ih =>
      obtain ⟨other, value⟩ := head
      by_cases same : other = name
      · exact ⟨[], value, rest, by rw [same, List.nil_append], by simp [names]⟩
      · have later : name ∈ names rest := by simpa [names, Ne.symm same] using present
        obtain ⟨before, old, after, rfl, absent⟩ := ih later
        refine ⟨(other, value) :: before, old, after, rfl, ?_⟩
        simpa [names, Ne.symm same] using absent

theorem put_of_first {name : String} (value : α) {before after : Entries α} {old : α}
    (absent : name ∉ names before) :
    put name value (before ++ (name, old) :: after) = before ++ (name, value) :: after := by
  induction before with
  | nil => simp [put]
  | cons head rest ih =>
      obtain ⟨other, first⟩ := head
      simp only [names, List.map_cons, List.mem_cons, not_or] at absent
      simp [put, Ne.symm absent.1, ih absent.2]

theorem mem_put {name : String} {value : α} {entries : Entries α} {entry : String × α}
    (member : entry ∈ put name value entries) : entry = (name, value) ∨ entry ∈ entries := by
  induction entries with
  | nil => simpa [put] using member
  | cons head rest ih =>
      obtain ⟨other, old⟩ := head
      by_cases same : other = name
      · subst same
        have cases : entry = (other, value) ∨ entry ∈ rest := by simpa [put] using member
        exact cases.imp_right (List.mem_cons_of_mem _)
      · have cases : entry = (other, old) ∨ entry ∈ put name value rest := by
          simpa [put, same] using member
        rcases cases with first | later
        · simp [first]
        · exact (ih later).imp_right (List.mem_cons_of_mem _)

theorem names_put_nodup (name : String) (value : α) {entries : Entries α}
    (distinct : (names entries).Nodup) : (names (put name value entries)).Nodup := by
  rw [names_put]
  split
  · exact distinct
  · rename_i absent
    exact distinct.append (List.nodup_singleton name) (by simpa using absent)

theorem find_eq_none {name : String} {entries : Entries α} :
    find? name entries = none ↔ name ∉ names entries := by
  induction entries with
  | nil => simp [find?, names]
  | cons head rest ih =>
      obtain ⟨other, old⟩ := head
      by_cases same : other = name
      · simp [find?, names, same]
      · simp only [names] at ih
        simp [find?, names, same, Ne.symm same, ih]

theorem find_of_mem {entries : Entries α} (distinct : (names entries).Nodup)
    {entry : String × α} (member : entry ∈ entries) :
    find? entry.1 entries = some entry.2 := by
  induction entries with
  | nil => simp at member
  | cons head rest ih =>
      obtain ⟨other, old⟩ := head
      simp only [names, List.map_cons, List.nodup_cons] at distinct
      rcases List.mem_cons.mp member with rfl | later
      · simp [find?]
      · have different : other ≠ entry.1 := by
          rintro rfl
          exact distinct.1 (List.mem_map_of_mem later)
        simp [find?, different, ih distinct.2 later]

theorem find_of_perm {entries others : Entries α} (order : entries.Perm others)
    (distinct : entries.names.Nodup) (name : String) : find? name entries = find? name others := by
  induction order with
  | nil => rfl
  | cons entry _ ih =>
      obtain ⟨other, value⟩ := entry
      simp only [names, List.map_cons, List.nodup_cons] at distinct
      rw [find?, find?, ih distinct.2]
  | swap first second rest =>
      obtain ⟨firstName, firstValue⟩ := first
      obtain ⟨secondName, secondValue⟩ := second
      simp only [names, List.map_cons, List.nodup_cons, List.mem_cons, not_or] at distinct
      by_cases isFirst : firstName = name
      · have different : secondName ≠ name := fun same => distinct.1.1 (same.trans isFirst.symm)
        simp [find?, isFirst, different]
      · simp [find?, isFirst]
  | trans earlier _ ih ihLater =>
      exact (ih distinct).trans (ihLater ((earlier.map Prod.fst).nodup_iff.mp distinct))

theorem find_put_all {entries : Entries α} (distinct : (names entries).Nodup) (base : Entries α)
    (name : String) :
    find? name (putAll entries base) = (find? name entries).or (find? name base) := by
  induction entries generalizing base with
  | nil => simp [putAll, find?]
  | cons head rest ih =>
      obtain ⟨other, value⟩ := head
      simp only [names, List.map_cons, List.nodup_cons] at distinct
      have step := ih distinct.2 (put other value base)
      have shape : putAll ((other, value) :: rest) base = putAll rest (put other value base) := rfl
      rw [shape, step]
      by_cases same : other = name
      · subst same
        have absent : find? other rest = none := find_eq_none.mpr distinct.1
        simp [find?, absent]
      · rw [find_put_other (Ne.symm same)]
        simp [find?, same]

theorem names_put_all {entries : Entries α} (distinct : (names entries).Nodup) (base : Entries α) :
    names (putAll entries base) =
      names base ++ (names entries).filter fun name => name ∉ names base := by
  induction entries generalizing base with
  | nil => simp [putAll, names]
  | cons head rest ih =>
      obtain ⟨name, value⟩ := head
      simp only [names, List.map_cons, List.nodup_cons] at distinct
      have shape : putAll ((name, value) :: rest) base = putAll rest (put name value base) := rfl
      have listed : names ((name, value) :: rest) = name :: names rest := rfl
      rw [shape, listed, ih distinct.2, names_put]
      by_cases present : name ∈ names base
      · rw [if_pos present, List.filter_cons_of_neg (by simpa using present)]
      · have same : (names rest).filter (fun other => other ∉ names base ++ [name]) =
            (names rest).filter fun other => other ∉ names base := by
          apply List.filter_congr
          intro other member
          have different : other ≠ name := fun same => distinct.1 (same ▸ member)
          simp [different]
        rw [if_neg present, same, List.filter_cons_of_pos (by simpa using present),
          List.append_assoc, List.singleton_append]

theorem put_all_of_find {entries base : Entries α}
    (present : ∀ entry ∈ entries, find? entry.1 base = some entry.2) :
    putAll entries base = base := by
  induction entries with
  | nil => rfl
  | cons head rest ih =>
      have first := put_of_find (present head (by simp))
      have further := ih fun entry member => present entry (List.mem_cons_of_mem _ member)
      calc putAll (head :: rest) base = putAll rest (put head.1 head.2 base) := rfl
        _ = putAll rest base := by rw [first]
        _ = base := further

/-- What holds of all values of a base and of all entries put on it holds of all that results, and
names stay distinct. -/
theorem put_all_keeps (holds : α → Prop) {entries base : Entries α}
    (distinct : (names base).Nodup) (inBase : ∀ entry ∈ base, holds entry.2)
    (inEntries : ∀ entry ∈ entries, holds entry.2) :
    (names (putAll entries base)).Nodup ∧ ∀ entry ∈ putAll entries base, holds entry.2 := by
  induction entries generalizing base with
  | nil => exact ⟨distinct, inBase⟩
  | cons head rest ih =>
      refine ih (names_put_nodup head.1 head.2 distinct) ?_ ?_
      · intro entry member
        rcases mem_put member with rfl | old
        · exact inEntries _ (by simp)
        · exact inBase entry old
      · intro entry member
        exact inEntries entry (List.mem_cons_of_mem _ member)

theorem names_of_present (entries : Entries (Option α)) :
    names (ofPresent entries) = (entries.filter fun entry => entry.2.isSome).map Prod.fst := by
  induction entries with
  | nil => rfl
  | cons head rest ih =>
      obtain ⟨name, value⟩ := head
      simp only [names, ofPresent] at ih
      cases value <;> simp [ofPresent, names, ih]

theorem names_of_present_sublist (entries : Entries (Option α)) :
    (names (ofPresent entries)).Sublist (names entries) := by
  rw [names_of_present]
  exact List.filter_sublist.map Prod.fst

theorem mem_of_present {entries : Entries (Option α)} {entry : String × α} :
    entry ∈ ofPresent entries ↔ (entry.1, some entry.2) ∈ entries := by
  obtain ⟨name, value⟩ := entry
  simp only [ofPresent, List.mem_filterMap, Option.map_eq_some_iff, Prod.mk.injEq, Prod.exists]
  constructor
  · rintro ⟨_, _, member, _, rfl, rfl, rfl⟩
    exact member
  · intro member
    exact ⟨name, some value, member, value, rfl, rfl, rfl⟩

theorem find_of_present {entries : Entries (Option α)} (distinct : (names entries).Nodup)
    (name : String) :
    find? name (ofPresent entries) = (find? name entries).join := by
  induction entries with
  | nil => simp [ofPresent, find?]
  | cons head rest ih =>
      obtain ⟨other, value⟩ := head
      simp only [names, List.map_cons, List.nodup_cons] at distinct
      have later := ih distinct.2
      simp only [ofPresent] at later
      by_cases same : other = name
      · subst same
        have absent : find? other rest = none := find_eq_none.mpr distinct.1
        cases value <;> simp [ofPresent, find?, later, absent]
      · cases value <;> simp [ofPresent, find?, same, later]

theorem names_of_present_eq_filter {entries : Entries (Option α)}
    (distinct : (names entries).Nodup) :
    names (ofPresent entries) =
      (names entries).filter fun name => (find? name (ofPresent entries)).isSome := by
  rw [names_of_present, names, List.filter_map]
  congr 1
  apply List.filter_congr
  intro entry member
  rw [Function.comp_apply, find_of_present distinct, find_of_mem distinct member, Option.join_some]

end Entries

end SearchKit
