import Mathlib.Data.List.Forall2
import SearchKit.Result.Hits

/-!
Looking up one document against looking up several. Both take the source of an entry for its
document, but only the look-up of one minds what the entry itself says about being found. So they
agree on all entries but those that have a source and say that they were not found.
-/

namespace SearchKit.Hits

set_option autoImplicit false

def Denied (entry : Json) : Prop := entry.member? "found" = some (.bool false)

def Sourced (entry : Json) : Prop := ∃ source, entry.member? "_source" = some (.object source)

def IsFound (entry : Json) : Prop := ¬Denied entry ∧ Sourced entry

theorem source_eq_some_iff (entry : Json) (source : Entries Json) :
    source? entry = some source ↔ entry.member? "_source" = some (.object source) := by
  unfold source?
  cases entry.member? "_source" with
  | none => simp
  | some stored => cases stored <;> simp

theorem source_is_some_iff (entry : Json) : (source? entry).isSome = true ↔ Sourced entry := by
  simp only [Option.isSome_iff_exists, source_eq_some_iff, Sourced]

instance : DecidablePred Denied := fun entry =>
  inferInstanceAs (Decidable (entry.member? "found" = some (.bool false)))

instance : DecidablePred Sourced := fun entry => decidable_of_iff _ (source_is_some_iff entry)

instance : DecidablePred IsFound := fun entry =>
  inferInstanceAs (Decidable (¬Denied entry ∧ Sourced entry))

theorem as_bool_eq_false_iff (member : Option Json) :
    (member.bind Json.asBool? == some false) = true ↔ member = some (.bool false) := by
  cases member with
  | none => simp
  | some value => cases value <;> simp [Json.asBool?]

/-- What a look-up makes of an entry that is its whole answer. -/
def lookedUp (entry : Json) : Json := (Answer.success entry).foundDocument

theorem looked_up_of_denied {entry : Json} (denied : Denied entry) :
    lookedUp entry = .emptyObject := by
  have flagged := (as_bool_eq_false_iff _).mpr denied
  simp [lookedUp, Answer.foundDocument, Answer.success, flagged]

theorem looked_up_of_not_denied {entry : Json} (notDenied : ¬Denied entry) :
    lookedUp entry = (Json.object ((source? entry).getD [])).wholeNumbers := by
  have unflagged := mt (as_bool_eq_false_iff _).mp notDenied
  simp [lookedUp, Answer.foundDocument, Answer.success, unflagged]

theorem looked_up_of_not_found {entry : Json} (missed : ¬IsFound entry) :
    lookedUp entry = .emptyObject := by
  by_cases denied : Denied entry
  · exact looked_up_of_denied denied
  · have unsourced : source? entry = none := by
      rw [← Option.not_isSome_iff_eq_none, source_is_some_iff]
      exact fun sourced => missed ⟨denied, sourced⟩
    rw [looked_up_of_not_denied denied, unsourced]
    rfl

theorem found_documents_eq {json : Json} {entries : List Json}
    (listed : json.member? "docs" = some (.array entries)) :
    foundDocuments json = (entries.filter Sourced).map fun entry =>
      (Json.object ((source? entry).getD [])).wholeNumbers := by
  rw [foundDocuments, listed]
  change entries.filterMap _ = _
  clear listed
  induction entries with
  | nil => rfl
  | cons entry rest ih =>
      have known := source_is_some_iff entry
      rw [List.filterMap_cons, ih]
      cases source : source? entry with
      | none =>
          rw [source] at known
          rw [List.filter_cons_of_neg (by simpa using known)]
          rfl
      | some members =>
          rw [source] at known
          rw [List.filter_cons_of_pos (by simpa using known), List.map_cons, source]
          rfl

theorem filter_found (entries : List Json) :
    entries.filter IsFound = (entries.filter Sourced).filter fun entry => ¬Denied entry := by
  rw [List.filter_filter]
  apply List.filter_congr
  intro entry _
  rw [← Bool.decide_and]
  rfl

/-- A look-up of several documents gives a document for every entry with a source, in the order of
the entries and no other: the source with whole numbers written as integers. For an entry that was
found this is what a look-up of it alone gives, and what that gives for all other entries is the
empty document. So the look-up of several gives exactly the documents of the found entries, unless
some entry that says it was not found has a source, which it gives as well. -/
theorem look_ups_agree_iff_no_denied_source {json : Json} {entries : List Json}
    (listed : json.member? "docs" = some (.array entries)) :
    List.Forall₂
      (fun entry document =>
        (∃ source, entry.member? "_source" = some (.object source) ∧
          document = (Json.object source).wholeNumbers) ∧
        (IsFound entry → document = lookedUp entry))
      (entries.filter Sourced) (foundDocuments json) ∧
    (∀ entry, ¬IsFound entry → lookedUp entry = .emptyObject) ∧
    List.Sublist ((entries.filter IsFound).map lookedUp) (foundDocuments json) ∧
    (foundDocuments json = (entries.filter IsFound).map lookedUp ↔
      ∀ entry ∈ entries, Denied entry → ¬Sourced entry) := by
  have each : (entries.filter IsFound).map lookedUp =
      (entries.filter IsFound).map fun entry =>
        (Json.object ((source? entry).getD [])).wholeNumbers := by
    apply List.map_congr_left
    intro entry member
    have isFound : IsFound entry := by simpa using (List.mem_filter.mp member).2
    exact looked_up_of_not_denied isFound.1
  rw [found_documents_eq listed, each, filter_found]
  refine ⟨?_, fun entry => looked_up_of_not_found, List.filter_sublist.map _, ?_, ?_⟩
  · rw [List.forall₂_map_right_iff]
    refine List.forall₂_same.mpr fun entry member => ?_
    have sourced : Sourced entry := by simpa using (List.mem_filter.mp member).2
    obtain ⟨source, stored⟩ := sourced
    refine ⟨⟨source, stored, ?_⟩, fun isFound => (looked_up_of_not_denied isFound.1).symm⟩
    rw [(source_eq_some_iff entry source).mpr stored, Option.getD_some]
  · -- Both lists come from the entries with a source, so the same length leaves none of them out.
    intro same entry member denied sourced
    have length := congrArg List.length same
    rw [List.length_map, List.length_map, eq_comm, List.length_filter_eq_length_iff] at length
    have kept := length entry (List.mem_filter.mpr ⟨member, by simpa using sourced⟩)
    exact absurd denied (by simpa using kept)
  · intro apart
    have all : ∀ entry ∈ entries.filter Sourced, (decide ¬Denied entry) = true := by
      intro entry member
      obtain ⟨inside, sourced⟩ := List.mem_filter.mp member
      simpa using fun denied => apart entry inside denied (by simpa using sourced)
    rw [List.filter_eq_self.mpr all]

def mixedEntries : List Json :=
  [.single "_source" (.single "price" (.number (.float (Binary64.powerOfTen 1)))),
    .object [("_id", .string "2"), ("found", .bool false)],
    .object [("found", .bool true), ("_source", .null)]]

theorem mixed_look_up_gives_what_was_found :
    foundDocuments (.single "docs" (.array mixedEntries)) =
        (mixedEntries.filter IsFound).map lookedUp ∧
      (mixedEntries.filter IsFound).map lookedUp = [.single "price" (.ofUInt64 10)] :=
  ⟨(look_ups_agree_iff_no_denied_source rfl).2.2.2.mpr (by decide), by decide⟩

def deniedWithSource : Json :=
  .object [("found", .bool false), ("_source", .single "id" (.ofUInt64 1))]

theorem denied_source_is_given_with_others :
    lookedUp deniedWithSource = .emptyObject ∧
      ([deniedWithSource].filter IsFound).map lookedUp = [] ∧
      foundDocuments (.single "docs" (.array [deniedWithSource])) =
        [.single "id" (.ofUInt64 1)] := by
  decide

end SearchKit.Hits
