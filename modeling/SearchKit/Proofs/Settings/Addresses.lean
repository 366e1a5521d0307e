import SearchKit.Proofs.Text.Trimming
import SearchKit.Settings.Basic

/-!
The hosts that settings name. An entry of nothing but white space around slashes names none, and
settings are valid when there is an entry that names one.
-/

namespace SearchKit

set_option autoImplicit false

namespace Settings

/-- White space around slashes, or nothing at all. -/
def NamesNoHost (entry : String) : Prop :=
  ∃ before slashes after, entry.toList = before ++ slashes ++ after ∧
    (∀ character ∈ before, Text.isBlank character = true) ∧
    (∀ character ∈ slashes, character = '/') ∧
    ∀ character ∈ after, Text.isBlank character = true

theorem address_eq_empty_iff (entry : String) : addressOf entry = "" ↔ NamesNoHost entry := by
  have noAddress : addressOf entry = "" ↔
      ∀ character ∈ Text.trimBy Text.isBlank entry.toList, character = '/' := by
    rw [addressOf, ← Text.trim_end_eq_nil]
    simp
  rw [noAddress]
  constructor
  · intro slashes
    obtain ⟨before, after, split, front, back⟩ := Text.trim_by_splits Text.isBlank entry.toList
    exact ⟨before, _, after, split, front, slashes, back⟩
  · rintro ⟨before, slashes, after, split, front, only, back⟩
    have kept : ∀ character ∈ slashes, Text.isBlank character = false := by
      intro character member
      rw [only character member]
      decide
    rw [split, Text.trim_by_between front back kept]
    exact only

instance : DecidablePred NamesNoHost := fun entry => decidable_of_iff _ (address_eq_empty_iff entry)

def namedHosts (settings : Settings) : List String :=
  settings.hosts.filter fun entry => ¬NamesNoHost entry

theorem addresses_eq_of_named (settings : Settings) :
    settings.addresses = settings.namedHosts.map addressOf := by
  rw [addresses, namedHosts, List.filter_map]
  apply congrArg (List.map addressOf)
  apply List.filter_congr
  intro entry _
  have empty : (addressOf entry).isEmpty = true ↔ NamesNoHost entry := by
    rw [String.isEmpty_iff, address_eq_empty_iff]
  rw [Bool.eq_iff_iff, Function.comp_apply, Bool.not_eq_true', decide_eq_true_iff, ← empty,
    Bool.not_eq_true]

end Settings

end SearchKit
