import Mathlib.Data.List.Induction
import SearchKit.Json.Decoding
import SearchKit.Proofs.Checked

/-!
Decoders against the values that are written for them: numbers, lists, and members that are left out
when there is nothing to write.
-/

namespace SearchKit.Json.Decoder

set_option autoImplicit false

variable {α β σ : Type}

/-! ## Optional values -/

theorem optional_any (json : Json) :
    optional any json = .ok ((some json).filter fun value => value ≠ .null) := by
  cases json <;> simp [optional, any, Except.map, Option.filter]

theorem ne_null_of_optional_any {json : Json} {value : Option Json}
    (read : optional any json = .ok value) : value ≠ some .null := by
  rw [optional_any] at read
  injection read with same
  rw [← same]
  intro null
  simpa using (Option.filter_eq_some_iff.mp null).2

theorem optional_of_decode {decode : Decoder α} {json : Json} {value : α} (given : json ≠ .null)
    (read : decode json = .ok value) : optional decode json = .ok (some value) := by
  have shape : optional decode json = (decode json).map some := by
    cases json <;> first | exact absurd rfl given | rfl
  rw [shape, read]
  rfl

/-! ## Numbers -/

theorem integer_of_number (kind : String) {least bound value : Int} (inRange)
    (within : least ≤ value ∧ value < bound) :
    integer kind least bound (.number (.integer value inRange)) = .ok ⟨value, within⟩ :=
  dif_pos within

theorem signed64_of_uint32 (word : UInt32) : signed64 (.ofUInt32 word) = .ok word.toNat := by
  have bounded := word.toNat_lt
  have within : -0x8000000000000000 ≤ (word.toNat : Int) ∧
      (word.toNat : Int) < 0x8000000000000000 := by omega
  rw [signed64, ofUInt32, integer_of_number _ _ within]
  rfl

theorem unsigned64_of_uint64 (word : UInt64) : unsigned64 (.ofUInt64 word) = .ok word := by
  have bounded := word.toNat_lt
  have within : 0 ≤ (word.toNat : Int) ∧ (word.toNat : Int) < 0x10000000000000000 := by omega
  rw [unsigned64, ofUInt64, integer_of_number _ _ within, Checked.ok_bind, Checked.pure_eq_ok]
  simp

/-! ## Lists -/

theorem list_of_map {decode : Decoder β} {encode : α → Json} {change : α → β} {items : List α}
    (each : ∀ item ∈ items, decode (encode item) = .ok (change item)) :
    list decode (.array (items.map encode)) = .ok (items.map change) := by
  rw [list, Checked.map_m_eq_ok, List.forall₂_map_left_iff, List.forall₂_map_right_iff]
  exact List.forall₂_same.mpr each

theorem list_of_strings (texts : List String) : list string (.strings texts) = .ok texts := by
  have read : ∀ text ∈ texts, string (.string text) = .ok (id text) := fun _ _ => rfl
  rw [strings, list_of_map read, List.map_id]

theorem texts_of_strings (texts : List String) :
    (texts.map Json.string).mapM asString? = some texts := by
  induction texts with
  | nil => rfl
  | cons text rest ih =>
      rw [List.map_cons, List.mapM_cons, ih]
      rfl

theorem all_of_list {decode : Decoder α} {holds : α → Prop}
    (each : ∀ {json item}, decode json = .ok item → holds item) {json : Json} {items : List α}
    (read : list decode json = .ok items) : ∀ item ∈ items, holds item := by
  cases json with
  | array values =>
      have pairs := (Checked.map_m_eq_ok _ _ _).mp read
      clear read
      induction pairs with
      | nil => simp
      | cons first _ ih => exact List.forall_mem_cons.mpr ⟨each first, ih⟩
  | null | bool _ | number _ | string _ | object _ => contradiction

/-! ## Members -/

section Members

variable {read : σ → String × Json → Except Mismatch σ} {start : σ} {name : String}
  {encode : α → Json}

theorem read_present (next : Option α → σ) (absent : next none = start) (value : Option α)
    (present : ∀ given, read start (name, encode given) = .ok (next (some given))) :
    (Entries.ofPresent [(name, value.map encode)]).foldlM read start = .ok (next value) := by
  cases value with
  | none => exact congrArg Except.ok absent.symm
  | some given =>
      have single : (Entries.ofPresent [(name, (some given).map encode)]).foldlM read start =
          read start (name, encode given) >>= pure := rfl
      rw [single, present]
      rfl

theorem read_filled (next : List β → σ) (change : α → β) (absent : next [] = start)
    (items : List α)
    (filled : read start (name, .array (items.map encode)) = .ok (next (items.map change))) :
    (if items.isEmpty then [] else [(name, Json.array (items.map encode))]).foldlM read start =
      .ok (next (items.map change)) := by
  cases items with
  | nil => exact congrArg Except.ok absent.symm
  | cons first rest =>
      have single : (if (first :: rest).isEmpty then []
          else [(name, Json.array ((first :: rest).map encode))]).foldlM read start =
          read start (name, .array ((first :: rest).map encode)) >>= pure := rfl
      rw [single, filled]
      rfl

theorem part_of_members {part : σ → Option α} {value? : Json → Option α}
    (each : ∀ {state member next}, read state member = .ok next →
      part next = if member.1 = name then value? member.2 else part state)
    (unset : part start = none) {members : Entries Json} {final : σ}
    (folded : members.foldlM read start = .ok final) :
    part final = (Entries.find? name members.reverse).bind value? := by
  induction members using List.reverseRecOn generalizing final with
  | nil =>
      rw [List.foldlM_nil, Checked.pure_eq_ok] at folded
      rw [← folded, unset]
      rfl
  | append_singleton members last ih =>
      obtain ⟨other, value⟩ := last
      rw [List.foldlM_append, Checked.bind_eq_ok] at folded
      obtain ⟨state, before, stepped⟩ := folded
      simp only [List.foldlM_cons, List.foldlM_nil, bind_pure] at stepped
      rw [each stepped, ih before, List.reverse_concat, Entries.find?]
      split <;> rfl

end Members

end SearchKit.Json.Decoder
