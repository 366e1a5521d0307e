import SearchKit.Json.Reader
import SearchKit.Proofs.Json.Entries

/-!
The shape of JSON values: how deep they nest, whether their objects use a name twice, and whether
they hold floating point numbers. Whatever is read from a text nests within the depth it was read
with and has no name twice.
-/

namespace SearchKit.Json

set_option autoImplicit false

/-- Arrays and objects nest at most `depth` levels, and no object has a name twice. -/
def Fits : Nat → Json → Prop
  | 0, .array _ => False
  | 0, .object _ => False
  | depth + 1, .array items => ∀ item ∈ items, Fits depth item
  | depth + 1, .object members =>
      (Entries.names members).Nodup ∧ ∀ member ∈ members, Fits depth member.2
  | _, .null => True
  | _, .bool _ => True
  | _, .number _ => True
  | _, .string _ => True

@[simp] theorem fits_null (depth : Nat) : Fits depth .null := by
  cases depth <;> trivial

@[simp] theorem fits_bool (depth : Nat) (value : Bool) : Fits depth (.bool value) := by
  cases depth <;> trivial

@[simp] theorem fits_number (depth : Nat) (value : Number) : Fits depth (.number value) := by
  cases depth <;> trivial

@[simp] theorem fits_string (depth : Nat) (text : String) : Fits depth (.string text) := by
  cases depth <;> trivial

theorem Fits.mono {depth deeper : Nat} {json : Json} (fits : Fits depth json)
    (more : depth ≤ deeper) : Fits deeper json := by
  induction depth generalizing json deeper with
  | zero => cases json <;> first | exact fits.elim | simp
  | succ depth ih =>
      obtain ⟨inner, rfl⟩ : ∃ inner, deeper = inner + 1 := ⟨deeper - 1, by omega⟩
      cases json with
      | array items => exact fun item member => ih (fits item member) (by omega)
      | object members => exact ⟨fits.1, fun entry member => ih (fits.2 entry member) (by omega)⟩
      | null | bool _ | number _ | string _ => simp

mutual

def isFloatFree : Json → Bool
  | .number (.float _) => false
  | .array items => itemsFloatFree items
  | .object members => membersFloatFree members
  | .null | .bool _ | .number (.integer _ _) | .string _ => true

def itemsFloatFree : List Json → Bool
  | [] => true
  | first :: rest => isFloatFree first && itemsFloatFree rest

def membersFloatFree : List (String × Json) → Bool
  | [] => true
  | (_, value) :: rest => isFloatFree value && membersFloatFree rest

end

theorem float_free_array (items : List Json) :
    (array items).isFloatFree = true ↔ ∀ item ∈ items, item.isFloatFree = true := by
  rw [isFloatFree]
  induction items with
  | nil => simp [itemsFloatFree]
  | cons first rest ih => simp [itemsFloatFree, ih]

theorem float_free_object (members : Entries Json) :
    (object members).isFloatFree = true ↔ ∀ member ∈ members, member.2.isFloatFree = true := by
  rw [isFloatFree]
  induction members with
  | nil => simp [membersFloatFree]
  | cons first rest ih =>
      obtain ⟨name, value⟩ := first
      simp [membersFloatFree, ih]

/-- A value that fits a depth and has no floating point number: such values survive being printed
and read. -/
structure Plain (depth : Nat) (json : Json) : Prop where
  fits : Fits depth json
  floatFree : json.isFloatFree = true

namespace Plain

variable {depth : Nat}

theorem mono {deeper : Nat} {json : Json} (plain : Plain depth json) (more : depth ≤ deeper) :
    Plain deeper json :=
  ⟨plain.fits.mono more, plain.floatFree⟩

theorem string (depth : Nat) (text : String) : Plain depth (.string text) :=
  ⟨fits_string depth text, rfl⟩

theorem of_uint64 (depth : Nat) (word : UInt64) : Plain depth (.ofUInt64 word) :=
  ⟨fits_number depth _, rfl⟩

theorem of_uint32 (depth : Nat) (word : UInt32) : Plain depth (.ofUInt32 word) :=
  ⟨fits_number depth _, rfl⟩

theorem array {items : List Json} (inside : ∀ item ∈ items, Plain depth item) :
    Plain (depth + 1) (.array items) :=
  ⟨fun item member => (inside item member).fits,
    (float_free_array items).mpr fun item member => (inside item member).floatFree⟩

theorem object {members : Entries Json} (distinct : members.names.Nodup)
    (inside : ∀ member ∈ members, Plain depth member.2) : Plain (depth + 1) (.object members) :=
  ⟨⟨distinct, fun entry member => (inside entry member).fits⟩,
    (float_free_object members).mpr fun entry member => (inside entry member).floatFree⟩

theorem strings (depth : Nat) (texts : List String) : Plain (depth + 1) (.strings texts) := by
  apply array
  intro item member
  obtain ⟨text, -, rfl⟩ := List.mem_map.mp member
  exact string depth text

theorem single (name : String) {value : Json} (inside : Plain depth value) :
    Plain (depth + 1) (.single name value) := by
  apply object
  · exact List.nodup_singleton name
  · intro entry member
    rw [List.mem_singleton.mp member]
    exact inside

end Plain

/-! ## What is read -/

theorem map_reading_eq_ok {α β : Type} {change : α → β} {reading : Reading α} {value : β}
    {left : List Char} :
    Reading.map change reading = .ok (value, left) ↔
      ∃ read, reading = .ok (read, left) ∧ change read = value := by
  rcases reading with fault | ⟨read, after⟩
  · simp [Reading.map]
  · simp only [Reading.map, Except.ok.injEq, Prod.mk.injEq]
    constructor
    · rintro ⟨same, rfl⟩
      exact ⟨read, ⟨rfl, rfl⟩, same⟩
    · rintro ⟨_, ⟨rfl, rfl⟩, same⟩
      exact ⟨same, rfl⟩

theorem read_word_value {value json : Json} {word left rest : List Char}
    (read : readWord value word left = .ok (json, rest)) : json = value := by
  induction word generalizing left with
  | nil =>
      injection read with pair
      injection pair with same
      exact same.symm
  | cons expected more ih =>
      cases left with
      | nil => simp [readWord, stop] at read
      | cons character left =>
          rw [readWord] at read
          split at read
          · exact ih read
          · simp [stopAfter] at read

section Lists

variable {holds : Json → Prop} {readItem : List Char → Reading Json}

theorem all_of_read_further_items
    (each : ∀ {left json rest}, readItem left = .ok (json, rest) → holds json)
    {bound : Nat} {items all : List Json} {left rest : List Char}
    (before : ∀ item ∈ items, holds item)
    (read : readFurtherItems readItem bound items left = .ok (all, rest)) :
    ∀ item ∈ all, holds item := by
  induction bound generalizing items left with
  | zero => simp [readFurtherItems, stop] at read
  | succ bound ih =>
      unfold readFurtherItems at read
      split at read
      · simp [stop] at read
      · injection read with pair
        injection pair with same
        intro item member
        rw [← same] at member
        exact before item (List.mem_reverse.mp member)
      · split at read
        · simp [stop] at read
        · simp [stopAfter] at read
        · split at read
          · contradiction
          · rename_i found
            refine ih ?_ read
            intro item member
            rcases List.mem_cons.mp member with rfl | old
            · exact each found
            · exact before item old
      · simp [stopAfter] at read

theorem all_of_read_items
    (each : ∀ {left json rest}, readItem left = .ok (json, rest) → holds json)
    {items : List Json} {left rest : List Char}
    (read : readItems readItem left = .ok (items, rest)) :
    ∀ item ∈ items, holds item := by
  unfold readItems at read
  split at read
  · simp [stop] at read
  · injection read with pair
    injection pair with same
    simp [← same]
  · split at read
    · contradiction
    · rename_i found
      refine all_of_read_further_items each ?_ read
      intro item member
      rw [List.mem_singleton.mp member]
      exact each found

theorem value_of_read_member
    (each : ∀ {left json rest}, readItem left = .ok (json, rest) → holds json)
    {member : String × Json} {left rest : List Char}
    (read : readMember readItem left = .ok (member, rest)) : holds member.2 := by
  unfold readMember at read
  split at read
  · contradiction
  · split at read
    · simp [stop] at read
    · split at read
      · contradiction
      · rename_i found
        injection read with pair
        injection pair with same
        rw [← same]
        exact each found
    · simp [stopAfter] at read

/-- A name that comes again is put in its old place, so that names stay distinct. -/
theorem all_of_read_further_members
    (each : ∀ {left json rest}, readItem left = .ok (json, rest) → holds json)
    {bound : Nat} {members all : Entries Json} {left rest : List Char}
    (distinct : members.names.Nodup) (before : ∀ member ∈ members, holds member.2)
    (read : readFurtherMembers readItem bound members left = .ok (all, rest)) :
    (Entries.names all).Nodup ∧ ∀ member ∈ all, holds member.2 := by
  induction bound generalizing members left with
  | zero => simp [readFurtherMembers, stop] at read
  | succ bound ih =>
      unfold readFurtherMembers at read
      split at read
      · simp [stop] at read
      · injection read with pair
        injection pair with same
        rw [← same]
        exact ⟨distinct, before⟩
      · split at read
        · simp [stop] at read
        · split at read
          · contradiction
          · rename_i name value after found
            refine ih (Entries.names_put_nodup name value distinct) ?_ read
            intro member inside
            rcases Entries.mem_put inside with rfl | old
            · exact value_of_read_member each found
            · exact before member old
        · simp [stopAfter] at read
        · simp [stopAfter] at read
      · simp [stopAfter] at read

theorem all_of_read_members
    (each : ∀ {left json rest}, readItem left = .ok (json, rest) → holds json)
    {members : Entries Json} {left rest : List Char}
    (read : readMembers readItem left = .ok (members, rest)) :
    members.names.Nodup ∧ ∀ member ∈ members, holds member.2 := by
  unfold readMembers at read
  split at read
  · simp [stop] at read
  · injection read with pair
    injection pair with same
    simp [← same, Entries.names]
  · split at read
    · contradiction
    · rename_i found
      refine all_of_read_further_members each ?_ ?_ read
      · simp [Entries.names]
      · intro member inside
        rw [List.mem_singleton.mp inside]
        exact value_of_read_member each found
  · simp [stopAfter] at read

end Lists

theorem read_value_cases {depth : Nat} {left rest : List Char} {json : Json}
    (read : readValue depth left = .ok (json, rest)) :
    (∀ level, Fits level json) ∨ ∃ inner after, depth = inner + 1 ∧
      ((∃ items, json = .array items ∧ readItems (readValue inner) after = .ok (items, rest)) ∨
        ∃ members, json = .object members ∧
          readMembers (readValue inner) after = .ok (members, rest)) := by
  unfold readValue at read
  split at read
  case h_1 => simp [stop] at read
  case h_2 | h_3 | h_4 => simp [read_word_value read]
  case h_5 | h_6 =>
    obtain ⟨_, -, rfl⟩ := map_reading_eq_ok.mp read
    simp
  case h_7 after _ =>
    cases depth with
    | zero => simp [stopAfter] at read
    | succ inner =>
        obtain ⟨items, found, rfl⟩ := map_reading_eq_ok.mp read
        exact .inr ⟨inner, after, rfl, .inl ⟨items, rfl, found⟩⟩
  case h_8 after _ =>
    cases depth with
    | zero => simp [stopAfter] at read
    | succ inner =>
        obtain ⟨members, found, rfl⟩ := map_reading_eq_ok.mp read
        exact .inr ⟨inner, after, rfl, .inr ⟨members, rfl, found⟩⟩
  case h_9 =>
    split at read
    · obtain ⟨_, -, rfl⟩ := map_reading_eq_ok.mp read
      simp
    · simp [stopAfter] at read

/-- Whatever is read nests within the depth that was left, and has no name twice. -/
theorem fits_of_read_value {depth : Nat} {left rest : List Char} {json : Json}
    (read : readValue depth left = .ok (json, rest)) : Fits depth json := by
  induction depth generalizing left json rest with
  | zero =>
      rcases read_value_cases read with plain | ⟨_, _, impossible, _⟩
      · exact plain 0
      · contradiction
  | succ depth ih =>
      rcases read_value_cases read with plain | ⟨_, _, ⟨⟩, ⟨_, rfl, found⟩ | ⟨_, rfl, found⟩⟩
      · exact plain (depth + 1)
      · exact all_of_read_items ih found
      · exact all_of_read_members ih found

theorem fits_of_text {text : String} {json : Json} (read : ofText text = .ok json) :
    Fits nestingLimit json := by
  unfold ofText at read
  rw [readDocument] at read
  split at read
  · simp [Except.mapError] at read
  · rename_i value left found
    split at read
    · injection read with same
      exact same ▸ fits_of_read_value found
    · simp [stopAfter, Except.mapError] at read

end SearchKit.Json
