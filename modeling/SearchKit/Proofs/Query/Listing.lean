import SearchKit.Proofs.Json.Entries
import SearchKit.Query.Node

/-!
The JSON form of a combination of queries: the lists of its groups under their names, of which the
empty ones are left out.
-/

namespace SearchKit

set_option autoImplicit false

def Group.every : List Group := [.must, .should, .mustNot]

namespace Query

theorem present_groups_eq_of_present (groups : Entries (List Json)) :
    presentGroups groups = Entries.ofPresent
      (groups.map fun group =>
        (group.1, if group.2 = [] then none else some (.array group.2))) := by
  rw [presentGroups, Entries.ofPresent, List.filterMap_map]
  apply List.filterMap_congr
  intro group _
  by_cases empty : group.2 = [] <;> simp [empty]

/-- The lists of a combination under the names of their groups, without the empty ones. -/
def listing (lists : Group → List Json) : Entries Json :=
  Entries.ofPresent (Group.every.map fun group =>
    (group.key, if lists group = [] then none else some (.array (lists group))))

theorem of_groups_to_json (entries : List (Group × Query)) :
    (ofGroups entries).toJson =
      .single "bool" (.object (listing fun group => (inGroup group entries).map toJson)) := by
  simp [ofGroups, toJson, listJson_eq_map, present_groups_eq_of_present, listing, Group.every]

theorem names_listing (lists : Group → List Json) :
    (listing lists).names = (Group.every.filter fun group => lists group ≠ []).map Group.key := by
  simp only [listing, Entries.names_of_present, List.filter_map, List.map_map]
  congr 1
  apply List.filter_congr
  intro group _
  by_cases empty : lists group = [] <;> simp [empty]

theorem find_listing (lists : Group → List Json) (group : Group) :
    Entries.find? group.key (listing lists) =
      if lists group = [] then none else some (.array (lists group)) := by
  rw [listing, Entries.find_of_present]
  · cases group <;> simp [Group.every, Group.key, Entries.find?]
  · change (Group.every.map Group.key).Nodup
    decide

theorem listing_distinct (lists : Group → List Json) : (listing lists).names.Nodup := by
  rw [names_listing]
  have listed : ((Group.every.filter fun group => lists group ≠ []).map Group.key).Sublist
      (Group.every.map Group.key) := List.filter_sublist.map Group.key
  exact listed.nodup (by decide)

theorem mem_listing {lists : Group → List Json} {entry : String × Json}
    (member : entry ∈ listing lists) : ∃ group, entry.2 = .array (lists group) := by
  rw [listing, Entries.mem_of_present] at member
  obtain ⟨group, -, same⟩ := List.mem_map.mp member
  injection same with _ shown
  by_cases empty : lists group = []
  · simp [empty] at shown
  · rw [if_neg empty] at shown
    injection shown with shown
    exact ⟨group, shown.symm⟩

end Query

end SearchKit
