import SearchKit.Proofs.Json.Decoding
import SearchKit.Proofs.Json.Reordering
import SearchKit.Proofs.Query.Nesting

/-!
Queries are read back from their JSON form. The kind of a query is the only name of its object, so
that no field name can be taken for a kind, and everything else is found by name. Hence two
queries never have forms that differ in the order of members only.
-/

namespace SearchKit.Query

open Json (SameUpToOrder)

set_option autoImplicit false

/-! ## Reading -/

def textAt? (name : String) (json : Json) : Option String := (json.member? name).bind Json.asString?

def textsAt? (name : String) (json : Json) : Option (List String) :=
  ((json.member? name).bind Json.asArray?).bind fun items => items.mapM Json.asString?

def onField? (name : String) (build : String → String → Query) : Json → Option Query
  | .object [(field, body)] => (textAt? name body).map (build field)
  | _ => none

def leaf? (kind : String) (asked : Json) : Option Query :=
  match kind with
  | "match_all" => some .everything
  | "term" => onField? "value" .term asked
  | "prefix" => onField? "value" .leading asked
  | "query_string" => do
      return .queryString (← textAt? "default_field" asked) (← textAt? "query" asked)
  | "match" => onField? "query" .words asked
  | "match_phrase" => onField? "query" .phrase asked
  | "multi_match" => do return .multiField (← textsAt? "fields" asked) (← textAt? "query" asked)
  | "wildcard" => onField? "value" .wildcard asked
  | "regexp" => onField? "value" .regexp asked
  | "range" =>
      match asked with
      | .object [(field, body)] => do
          return .range field (← textAt? "gt" body) (← textAt? "lt" body)
      | _ => none
  | _ => none

mutual

def ofJson? : Json → Option Query
  | .object [(kind, asked)] => if kind = "bool" then combined? asked else leaf? kind asked
  | _ => none

def combined? : Json → Option Query
  | .object groups => do
      return .combined (← group? Group.must.key groups) (← group? Group.should.key groups)
        (← group? Group.mustNot.key groups)
  | _ => none

/-- The queries under the name of a group, none when the name is missing. -/
def group? (key : String) : List (String × Json) → Option (List Query)
  | [] => some []
  | (name, value) :: rest => if name = key then array? value else group? key rest

def array? : Json → Option (List Query)
  | .array items => list? items
  | _ => none

def list? : List Json → Option (List Query)
  | [] => some []
  | item :: rest => do return (← ofJson? item) :: (← list? rest)

end

/-! ## Queries without others inside -/

/-- Induction over queries: what holds of all queries inside a combination may be assumed for it. -/
@[elab_as_elim]
theorem inside_induction {holds : Query → Prop} (leaf : ∀ query, query.IsLeaf → holds query)
    (combined : ∀ must should mustNot, (∀ query ∈ must, holds query) →
      (∀ query ∈ should, holds query) → (∀ query ∈ mustNot, holds query) →
      holds (.combined must should mustNot))
    (query : Query) : holds query := by
  refine @Query.rec holds (fun queries => ∀ query ∈ queries, holds query)
    ?_ ?_ ?_ ?_ ?_ ?_ ?_ ?_ ?_ ?_ combined ?_ ?_ query
  case refine_11 => simp
  case refine_12 =>
    intro first rest inFirst inRest
    exact List.forall_mem_cons.mpr ⟨inFirst, inRest⟩
  all_goals
    intros
    exact leaf _ trivial

section Leaves

variable {json : Json}

theorem text_at_of_same (name : String) {text : String} {members : Entries Json}
    (same : SameUpToOrder (.object members) json) (distinct : members.names.Nodup)
    (found : Entries.find? name members = some (.string text)) : textAt? name json = some text := by
  obtain ⟨other, shown, inside⟩ := same.member_eq_some distinct found
  rw [textAt?, shown, Option.bind_some, inside.eq_string, Json.asString?]

theorem texts_at_of_same (name : String) {texts : List String} {members : Entries Json}
    (same : SameUpToOrder (.object members) json) (distinct : members.names.Nodup)
    (found : Entries.find? name members = some (.strings texts)) :
    textsAt? name json = some texts := by
  obtain ⟨other, shown, inside⟩ := same.member_eq_some distinct found
  rw [textsAt?, shown, Option.bind_some, inside.eq_strings]
  exact Json.Decoder.texts_of_strings texts

theorem of_json_of_kind (kind : String) {asked : Json} (leaf : kind ≠ "bool")
    (same : SameUpToOrder (.single kind asked) json) :
    ∃ other, SameUpToOrder asked other ∧ ofJson? json = leaf? kind other := by
  obtain ⟨other, rfl, inside⟩ := same.eq_single
  exact ⟨other, inside, by simp [Json.single, ofJson?, leaf]⟩

theorem of_json_of_field {kind name field text : String} {build : String → String → Query}
    (leaf : kind ≠ "bool") (reads : ∀ asked, leaf? kind asked = onField? name build asked)
    (same : SameUpToOrder (onField kind field [(name, .string text)]) json) :
    ofJson? json = some (build field text) := by
  obtain ⟨other, inside, read⟩ := of_json_of_kind kind leaf same
  obtain ⟨body, rfl, inBody⟩ := inside.eq_single
  have found : textAt? name body = some text :=
    text_at_of_same name inBody (List.nodup_singleton name) (by simp [Entries.find?])
  rw [read, reads]
  simp [Json.single, onField?, found]

theorem of_json_of_leaf {query : Query} (leaf : query.IsLeaf)
    (same : SameUpToOrder query.toJson json) : ofJson? json = some query := by
  cases query with
  | combined must should mustNot => exact leaf.elim
  | everything =>
      obtain ⟨other, -, read⟩ := of_json_of_kind "match_all" (by decide) same
      rw [read, leaf?]
  | term field value => exact of_json_of_field (by decide) (fun _ => rfl) same
  | leading field value => exact of_json_of_field (by decide) (fun _ => rfl) same
  | words field query => exact of_json_of_field (by decide) (fun _ => rfl) same
  | phrase field query => exact of_json_of_field (by decide) (fun _ => rfl) same
  | wildcard field value => exact of_json_of_field (by decide) (fun _ => rfl) same
  | regexp field value => exact of_json_of_field (by decide) (fun _ => rfl) same
  | queryString field query =>
      obtain ⟨other, inside, read⟩ := of_json_of_kind "query_string" (by decide) same
      have distinct : ["query", "default_field"].Nodup := by decide
      have isField := text_at_of_same "default_field" inside distinct rfl
      have isQuery := text_at_of_same "query" inside distinct rfl
      rw [read, leaf?, isField, isQuery]
      rfl
  | multiField fields query =>
      obtain ⟨other, inside, read⟩ := of_json_of_kind "multi_match" (by decide) same
      have distinct : ["query", "fields"].Nodup := by decide
      have areFields := texts_at_of_same "fields" inside distinct rfl
      have isQuery := text_at_of_same "query" inside distinct rfl
      rw [read, leaf?, areFields, isQuery]
      rfl
  | range field above below =>
      obtain ⟨other, inside, read⟩ := of_json_of_kind "range" (by decide) same
      obtain ⟨body, rfl, inBody⟩ := inside.eq_single
      have distinct : ["gt", "lt"].Nodup := by decide
      have isAbove := text_at_of_same "gt" inBody distinct rfl
      have isBelow := text_at_of_same "lt" inBody distinct rfl
      simp only [read, leaf?, Json.single, isAbove, isBelow]
      rfl

end Leaves

/-! ## Combinations -/

def grouped (must should mustNot : List Query) : Group → List Query
  | .must => must
  | .should => should
  | .mustNot => mustNot

theorem combined_to_json (must should mustNot : List Query) :
    (combined must should mustNot).toJson =
      .single "bool" (.object (listing fun group =>
        (grouped must should mustNot group).map toJson)) := by
  simp [toJson, listJson_eq_map, present_groups_eq_of_present, listing, Group.every, grouped]

theorem group_eq_find (key : String) (groups : Entries Json) :
    group? key groups = ((Entries.find? key groups).map array?).getD (some []) := by
  induction groups with
  | nil => rfl
  | cons group rest ih =>
      obtain ⟨name, value⟩ := group
      rw [group?, Entries.find?]
      split
      · rfl
      · exact ih

theorem list_of_same {queries : List Query} {items : List Json}
    (each : ∀ query ∈ queries, ∀ json, SameUpToOrder query.toJson json → ofJson? json = some query)
    (same : List.Forall₂ SameUpToOrder (queries.map toJson) items) :
    list? items = some queries := by
  induction queries generalizing items with
  | nil =>
      obtain rfl := List.forall₂_nil_left_iff.mp same
      rfl
  | cons query rest ih =>
      rw [List.forall_mem_cons] at each
      obtain ⟨item, further, first, later, rfl⟩ := List.forall₂_cons_left_iff.mp same
      rw [list?, each.1 item first, ih each.2 later]
      rfl

theorem group_of_same {lists : Group → List Query} (group : Group) {groups : Entries Json}
    (each : ∀ query ∈ lists group, ∀ json,
      SameUpToOrder query.toJson json → ofJson? json = some query)
    (same : Option.Rel SameUpToOrder
      (Entries.find? group.key (listing fun group => (lists group).map toJson))
      (Entries.find? group.key groups)) : group? group.key groups = some (lists group) := by
  rw [find_listing] at same
  rw [group_eq_find]
  cases found : Entries.find? group.key groups with
  | none =>
      rw [found] at same
      split at same
      · rename_i empty
        rw [List.map_eq_nil_iff.mp empty]
        rfl
      · contradiction
  | some value =>
      rw [found] at same
      split at same
      · contradiction
      · rw [Option.rel_some_some] at same
        obtain ⟨items, rfl, listed⟩ := same.eq_array
        exact list_of_same each listed

theorem of_json_of_same {query : Query} {json : Json} (same : SameUpToOrder query.toJson json) :
    ofJson? json = some query := by
  induction query using inside_induction generalizing json with
  | leaf query leaf => exact of_json_of_leaf leaf same
  | combined must should mustNot inMust inShould inMustNot =>
      rw [combined_to_json] at same
      obtain ⟨other, rfl, inside⟩ := same.eq_single
      obtain ⟨groups, rfl, each⟩ := inside.eq_object (listing_distinct _)
      have must := group_of_same .must (fun query member _ => inMust query member)
        (each Group.must.key)
      have should := group_of_same .should (fun query member _ => inShould query member)
        (each Group.should.key)
      have mustNot := group_of_same .mustNot (fun query member _ => inMustNot query member)
        (each Group.mustNot.key)
      rw [Json.single, ofJson?, if_pos rfl, combined?, must, should, mustNot]
      rfl

/-- Reading undoes writing, however the members of objects are ordered. So two queries whose forms
are equal but for that order are the same query. -/
theorem written_queries_are_read_back :
    (∀ (query : Query) (json : Json),
      SameUpToOrder query.toJson json → ofJson? json = some query) ∧
    (∀ query : Query, ofJson? query.toJson = some query) ∧
    ∀ left right : Query, SameUpToOrder left.toJson right.toJson ↔ left = right := by
  refine ⟨fun _ _ => of_json_of_same, fun query => of_json_of_same (.refl query.toJson), ?_⟩
  intro left right
  constructor
  · intro same
    have readLeft : ofJson? right.toJson = some left := of_json_of_same same
    have readRight : ofJson? right.toJson = some right := of_json_of_same (.refl right.toJson)
    rw [readLeft] at readRight
    injection readRight
  · rintro rfl
    exact .refl left.toJson

def nestedQuery : Query :=
  .combined [.range "bool" "1" "2"] [] [.combined [] [.multiField [] "x"] [.term "match_all" "y"]]

def nestedBackwards : Json :=
  .single "bool" (.object [
    ("must_not", .array [.single "bool" (.object [
      ("must_not", .array [.single "term" (.single "match_all" (.single "value" (.string "y")))]),
      ("should", .array [.single "multi_match"
        (.object [("fields", .strings []), ("query", .string "x")])])])]),
    ("must", .array [.single "range" (.single "bool"
      (.object [("lt", .string "2"), ("gt", .string "1")]))])])

theorem nested_backwards_is_read_back :
    SameUpToOrder nestedQuery.toJson nestedBackwards ∧
      ofJson? nestedBackwards = some nestedQuery := by
  have range : SameUpToOrder (toJson (.range "bool" "1" "2")) (.single "range" (.single "bool"
      (.object [("lt", .string "2"), ("gt", .string "1")]))) :=
    .single "range" (.single "bool" (.swapped _ _ (.string "1") (.string "2")))
  have several : SameUpToOrder (toJson (.multiField [] "x")) (.single "multi_match"
      (.object [("fields", .strings []), ("query", .string "x")])) :=
    .single "multi_match" (.swapped _ _ (.string "x") (.array .nil))
  have term := SameUpToOrder.refl (toJson (.term "match_all" "y"))
  have inner := SameUpToOrder.single "bool" (.swapped "should" "must_not"
    (.array (.cons several .nil)) (.array (.cons term .nil)))
  have same : SameUpToOrder nestedQuery.toJson nestedBackwards :=
    .single "bool" (.swapped _ _ (.array (.cons range .nil)) (.array (.cons inner .nil)))
  exact ⟨same, written_queries_are_read_back.1 nestedQuery nestedBackwards same⟩

end SearchKit.Query
