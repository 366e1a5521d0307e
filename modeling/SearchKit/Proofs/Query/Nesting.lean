import SearchKit.Proofs.Json.Shape
import SearchKit.Proofs.Query.Compilation
import SearchKit.Proofs.Query.Listing

/-!
How deep the parts of a body nest. The query of a clause has no other query inside, so everything
that is laid over a base stays far from the limit of the reader, whatever the base is.
-/

namespace SearchKit

set_option autoImplicit false

namespace Query

def IsLeaf : Query → Prop
  | .combined _ _ _ => False
  | _ => True

theorem plain_on_field (kind field : String) {body : Entries Json} (distinct : body.names.Nodup)
    (inside : ∀ member ∈ body, Json.Plain 0 member.2) : Json.Plain 3 (onField kind field body) :=
  .single kind (.single field (.object distinct inside))

theorem plain_of_leaf {query : Query} (leaf : query.IsLeaf) : Json.Plain 3 query.toJson := by
  cases query with
  | combined must should mustNot => exact leaf.elim
  | everything =>
      have shallow : Json.Plain 2 (toJson .everything) :=
        .single "match_all" (.object List.nodup_nil (by simp))
      exact shallow.mono (by decide)
  | queryString defaultField query =>
      have shallow : Json.Plain 2 (toJson (.queryString defaultField query)) := by
        refine .single "query_string" (.object (by simp [Entries.names]) ?_)
        simp [Json.Plain.string]
      exact shallow.mono (by decide)
  | multiField fields query =>
      refine .single "multi_match" (.object (by simp [Entries.names]) ?_)
      simp [Json.Plain.string, Json.Plain.strings]
  | term | leading | words | phrase | wildcard | regexp | range =>
      refine plain_on_field _ _ (by simp [Entries.names]) ?_
      simp [Json.Plain.string]

theorem plain_of_groups {entries : List (Group × Query)}
    (leaves : ∀ entry ∈ entries, entry.2.IsLeaf) : Json.Plain 6 (ofGroups entries).toJson := by
  rw [of_groups_to_json]
  refine .single "bool" (.object (listing_distinct _) ?_)
  intro entry member
  obtain ⟨group, list⟩ := mem_listing member
  rw [list]
  apply Json.Plain.array
  intro item inside
  obtain ⟨query, found, rfl⟩ := List.mem_map.mp inside
  obtain ⟨entry, listed, named⟩ := List.mem_filterMap.mp found
  split at named
  · injection named with same
    rw [← same]
    exact plain_of_leaf (leaves entry listed)
  · contradiction

end Query

namespace Clause

theorem range_query_is_leaf {field value : String} {query : Query}
    (read : rangeQuery field value = .ok query) : query.IsLeaf := by
  unfold rangeQuery at read
  split at read
  · split at read
    · contradiction
    · injection read with same
      simp [← same, Query.IsLeaf]
  · contradiction

theorem query_is_leaf {clause : Clause} {shared : Option Json} {query : Query}
    (accepted : clause.query? shared = .ok (some query)) : query.IsLeaf := by
  obtain ⟨field, value, mode⟩ := clause
  simp only [query?] at accepted
  split at accepted
  · contradiction
  cases mode with
  | multiField =>
      injection accepted with same
      split at same
      · injection same with same
        simp [← same, Query.IsLeaf]
      · contradiction
  | range =>
      obtain ⟨bounded, read, same⟩ := (Checked.map_eq_ok _ _ _).mp accepted
      injection same with same
      exact same ▸ range_query_is_leaf read
  | term | leading | queryString | words | phrase | wildcard | regexp | everything =>
      injection accepted with same
      injection same with same
      simp [← same, Query.IsLeaf]

end Clause

namespace Clauses

theorem queries_are_leaves {shared : Option Json} {entries : List (Group × Clause)}
    {found : List (Group × Query)} (gathered : queries shared entries = .ok found) :
    ∀ entry ∈ found, entry.2.IsLeaf := by
  induction entries generalizing found with
  | nil =>
      injection gathered with same
      simp [← same]
  | cons entry rest ih =>
      obtain ⟨group, clause⟩ := entry
      simp only [queries, Checked.bind_eq_ok, Checked.pure_eq_ok] at gathered
      obtain ⟨query, asked, further, later, rfl⟩ := gathered
      intro entry member
      rcases List.mem_append.mp member with here | behind
      · obtain ⟨leaf, rfl, rfl⟩ := Option.map_eq_some_iff.mp (Option.mem_toList.mp here)
        exact Clause.query_is_leaf asked
      · exact ih later entry behind

/-- The query of accepted clauses nests six levels at most. -/
theorem plain_of_query {clauses : Clauses} {shared : Option Json} {query : Query}
    (accepted : clauses.query shared = .ok query) : Json.Plain 6 query.toJson := by
  unfold Clauses.query at accepted
  split at accepted
  · contradiction
  · split at accepted
    · injection accepted with same
      rw [← same]
      have leaf : ∀ entry ∈ [(Group.must, Query.everything)], entry.2.IsLeaf := by
        simp [Query.IsLeaf]
      exact Query.plain_of_groups leaf
    · obtain ⟨found, gathered, rfl⟩ := (Checked.map_eq_ok _ _ _).mp accepted
      exact Query.plain_of_groups (queries_are_leaves gathered)

end Clauses

theorem Order.plain_sort_key (order : Order) : Json.Plain 2 order.sortKey :=
  .single order.name (.single "order" (.string 0 order.direction.word))

theorem Marking.plain_to_json (marking : Marking) : Json.Plain 3 marking.toJson := by
  have fields : Json.Plain 2 (.single marking.field .emptyObject) :=
    .single marking.field (.object List.nodup_nil (by simp))
  refine .object (by simp [Entries.names]) ?_
  simp [Json.Plain.strings, fields]

theorem Overlay.plain_entries (overlay : Overlay)
    (asked : ∀ query, overlay.query = some query → Json.Plain 6 query.toJson) :
    ∀ entry ∈ overlay.entries, Json.Plain 6 entry.2 := by
  intro entry member
  rw [entries, Entries.mem_of_present] at member
  simp only [List.mem_cons, Prod.mk.injEq, List.not_mem_nil, or_false] at member
  rcases member with ⟨-, given⟩ | ⟨-, given⟩ | ⟨-, given⟩ | ⟨-, given⟩ | ⟨-, given⟩
  · obtain ⟨start, -, shown⟩ := Option.map_eq_some_iff.mp given.symm
    exact shown ▸ .of_uint64 6 start
  · obtain ⟨size, -, shown⟩ := Option.map_eq_some_iff.mp given.symm
    exact shown ▸ .of_uint32 6 size
  · obtain ⟨query, isQuery, shown⟩ := Option.map_eq_some_iff.mp given.symm
    exact shown ▸ asked query isQuery
  · split at given
    · contradiction
    · injection given with shown
      rw [shown]
      apply Json.Plain.array
      intro item inside
      obtain ⟨order, -, rfl⟩ := List.mem_map.mp inside
      exact order.plain_sort_key.mono (by decide)
  · obtain ⟨marking, -, shown⟩ := Option.map_eq_some_iff.mp given.symm
    exact shown ▸ marking.plain_to_json.mono (by decide)

namespace Request

/-- A base has no name twice and leaves one level of the reader's limit for itself, and a query laid
on it nests six levels at most. -/
theorem shape_of_base {request : Request} {base : Entries Json} {query : Option Query}
    (based : request.baseAndQuery = .ok (base, query)) :
    base.names.Nodup ∧ (∀ entry ∈ base, Json.Fits 126 entry.2) ∧
      ∀ asked, query = some asked → Json.Plain 6 asked.toJson := by
  cases given : request.rawQuery with
  | none =>
      obtain ⟨rfl, combined, rfl, accepted⟩ := base_of_clauses given based
      refine ⟨List.nodup_nil, by simp, ?_⟩
      rintro asked ⟨⟩
      exact Clauses.plain_of_query accepted
  | some raw =>
      obtain ⟨read, rfl⟩ := (base_of_raw given).mp based
      have fits : Json.Fits (126 + 1) (.object base) := Json.fits_of_text read
      exact ⟨fits.1, fits.2, by simp⟩

theorem fits_of_compiled {request : Request} {search : Search}
    (compiled : request.compile = .ok search) : Json.Fits Json.nestingLimit search.body := by
  obtain ⟨base, query, marking, based, -, rfl⟩ := (compile_eq_ok request search).mp compiled
  obtain ⟨distinct, inBase, asked⟩ := shape_of_base based
  have laid := (request.overlay query marking).plain_entries asked
  exact Entries.put_all_keeps (Json.Fits 126) distinct inBase fun entry member =>
    (laid entry member).fits.mono (by decide)

theorem float_free_of_clauses {request : Request} {search : Search}
    (structured : request.rawQuery = none) (compiled : request.compile = .ok search) :
    search.body.isFloatFree = true := by
  obtain ⟨base, query, marking, based, -, rfl⟩ := (compile_eq_ok request search).mp compiled
  obtain ⟨rfl, -⟩ := base_of_clauses structured based
  obtain ⟨distinct, -, asked⟩ := shape_of_base based
  have laid := (request.overlay query marking).plain_entries asked
  have whole := Entries.put_all_keeps (Json.Plain 6) distinct (by simp) laid
  exact (Json.Plain.object whole.1 whole.2).floatFree

end Request

end SearchKit
