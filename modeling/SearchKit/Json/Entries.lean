/-!
Named values in the order in which their names first came up. Putting a value under a name that is
already there keeps the place of that name.
-/

namespace SearchKit

set_option autoImplicit false

abbrev Entries (α : Type) := List (String × α)

namespace Entries

variable {α : Type}

def find? (name : String) : Entries α → Option α
  | [] => none
  | (other, value) :: rest => if other = name then some value else find? name rest

def put (name : String) (value : α) : Entries α → Entries α
  | [] => [(name, value)]
  | (other, old) :: rest =>
      if other = name then (other, value) :: rest else (other, old) :: put name value rest

def names (entries : Entries α) : List String := entries.map Prod.fst

/-- The entries of the optional values that are there, in the given order. -/
def ofPresent (entries : Entries (Option α)) : Entries α :=
  entries.filterMap fun entry => entry.2.map fun value => (entry.1, value)

@[simp] theorem find_put_same (name : String) (value : α) (entries : Entries α) :
    find? name (put name value entries) = some value := by
  induction entries with
  | nil => simp [put, find?]
  | cons head rest ih =>
      obtain ⟨other, old⟩ := head
      by_cases same : other = name <;> simp [put, find?, same, ih]

theorem find_put_other {name other : String} (different : other ≠ name) (value : α)
    (entries : Entries α) : find? other (put name value entries) = find? other entries := by
  induction entries with
  | nil => simp [put, find?, different.symm]
  | cons head rest ih =>
      obtain ⟨present, old⟩ := head
      by_cases same : present = name
      · subst same
        simp [put, find?, different.symm]
      · simp [put, find?, same, ih]

/-- Putting adds its name at the end, unless the name is already there. -/
theorem names_put (name : String) (value : α) (entries : Entries α) :
    names (put name value entries) =
      if name ∈ names entries then names entries else names entries ++ [name] := by
  induction entries with
  | nil => simp [put, names]
  | cons head rest ih =>
      obtain ⟨other, old⟩ := head
      by_cases same : other = name
      · simp [put, names, same]
      · simp only [names] at ih
        simp only [put, same, names, List.map_cons, List.mem_cons, Ne.symm same, false_or,
          if_false, ih]
        by_cases present : name ∈ List.map Prod.fst rest <;> simp [present]

end Entries

end SearchKit
