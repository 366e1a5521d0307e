import SearchKit.Proofs.Json.Entries
import SearchKit.Query.Body

/-!
Laying the parts of a body over a base: every part that is set is found in the result, and every
other name keeps what the base has for it.
-/

namespace SearchKit

set_option autoImplicit false

namespace Overlay

/-- The names of all parts, in the order in which they are appended. -/
def partNames : List String := ["from", "size", "query", "sort", "highlight"]

theorem onto_eq_put_all (overlay : Overlay) (base : Entries Json) :
    overlay.onto base = overlay.entries.putAll base := rfl

theorem entries_distinct (overlay : Overlay) : overlay.entries.names.Nodup := by
  have listed : overlay.entries.names.Sublist partNames := Entries.names_of_present_sublist _
  exact listed.nodup (by decide)

theorem find_onto (overlay : Overlay) (base : Entries Json) (name : String) :
    Entries.find? name (overlay.onto base) =
      (Entries.find? name overlay.entries).or (Entries.find? name base) :=
  Entries.find_put_all overlay.entries_distinct base name

theorem find_entries (overlay : Overlay) (name : String) :
    Entries.find? name overlay.entries =
      (Entries.find? name
        [("from", overlay.start.map Json.ofUInt64), ("size", overlay.size.map Json.ofUInt32),
          ("query", overlay.query.map Query.toJson),
          ("sort",
            if overlay.sort.isEmpty then .none else some (.array (overlay.sort.map Order.sortKey))),
          ("highlight", overlay.marking.map Marking.toJson)]).join := by
  apply Entries.find_of_present
  change partNames.Nodup
  decide

@[simp] theorem find_onto_from (overlay : Overlay) (base : Entries Json) :
    Entries.find? "from" (overlay.onto base) =
      (overlay.start.map Json.ofUInt64).or (Entries.find? "from" base) := by
  simp [find_onto, find_entries, Entries.find?]

@[simp] theorem find_onto_size (overlay : Overlay) (base : Entries Json) :
    Entries.find? "size" (overlay.onto base) =
      (overlay.size.map Json.ofUInt32).or (Entries.find? "size" base) := by
  simp [find_onto, find_entries, Entries.find?]

@[simp] theorem find_onto_query (overlay : Overlay) (base : Entries Json) :
    Entries.find? "query" (overlay.onto base) =
      (overlay.query.map Query.toJson).or (Entries.find? "query" base) := by
  simp [find_onto, find_entries, Entries.find?]

@[simp] theorem find_onto_sort (overlay : Overlay) (base : Entries Json) :
    Entries.find? "sort" (overlay.onto base) =
      (if overlay.sort = [] then .none
        else some (.array (overlay.sort.map Order.sortKey))).or (Entries.find? "sort" base) := by
  simp [find_onto, find_entries, Entries.find?]

@[simp] theorem find_onto_highlight (overlay : Overlay) (base : Entries Json) :
    Entries.find? "highlight" (overlay.onto base) =
      (overlay.marking.map Marking.toJson).or (Entries.find? "highlight" base) := by
  simp [find_onto, find_entries, Entries.find?]

end Overlay

end SearchKit
