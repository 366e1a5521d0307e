import SearchKit.Proofs.Query.Predicates
import SearchKit.Proofs.Text.Trimming

/-!
The fields of multi-field predicates. A multi-field clause gives its fields as one text, cut at
commas, and its predicate holds the names in that text: the parts that are not blank, each without
the white space around it. Whether there is a predicate is decided by the place of the first comma
alone, so a text of commas and white space gives one without any field.
-/

namespace SearchKit

set_option autoImplicit false

namespace Clause

/-- The names in the parts of a field text. A blank part is passed over, and every other part holds
a name with white space around it. -/
inductive Names : List String → List String → Prop
  | nil : Names [] []
  | blank {part : String} {parts names : List String}
      (blank : ∀ character ∈ part.toList, Text.isBlank character = true)
      (later : Names parts names) : Names (part :: parts) names
  | named {part name : String} {parts names : List String} (trimmed : Text.IsTrimmed part name)
      (some : name ≠ "") (later : Names parts names) : Names (part :: parts) (name :: names)

theorem names_of_parts (parts : List String) :
    Names parts ((parts.map Text.trim).filter fun name => name ≠ "") := by
  induction parts with
  | nil => exact .nil
  | cons part rest ih =>
      by_cases empty : Text.trim part = ""
      · rw [List.map_cons, List.filter_cons_of_neg (by simpa using empty)]
        exact .blank ((Text.trim_eq_empty_iff part).mp empty) ih
      · rw [List.map_cons, List.filter_cons_of_pos (by simpa using empty)]
        exact .named (Text.is_trimmed_trim part) empty ih

namespace Names

variable {parts names : List String}

theorem of_some_part (given : Names parts names) :
    ∀ name ∈ names, name ≠ "" ∧ ∃ part ∈ parts, Text.IsTrimmed part name := by
  induction given with
  | nil => simp
  | blank _ _ ih =>
      intro name member
      obtain ⟨some, part, inside, trimmed⟩ := ih name member
      exact ⟨some, part, List.mem_cons_of_mem _ inside, trimmed⟩
  | named trimmed some _ ih =>
      refine List.forall_mem_cons.mpr ⟨⟨some, _, List.mem_cons_self, trimmed⟩, ?_⟩
      intro name member
      obtain ⟨some, part, inside, trimmed⟩ := ih name member
      exact ⟨some, part, List.mem_cons_of_mem _ inside, trimmed⟩

theorem not_blank {part name : String} (trimmed : Text.IsTrimmed part name) (some : name ≠ "") :
    ∃ character ∈ part.toList, Text.isBlank character = false := by
  obtain ⟨first, isFirst⟩ := Option.ne_none_iff_exists'.mp
    (mt List.head?_eq_none_iff.mp (mt String.toList_eq_nil_iff.mp some))
  exact ⟨first, trimmed.subset (List.mem_of_mem_head? isFirst), trimmed.starts first isFirst⟩

theorem ne_nil_iff (given : Names parts names) :
    names ≠ [] ↔ ∃ part ∈ parts, ∃ character ∈ part.toList, Text.isBlank character = false := by
  induction given with
  | nil => simp
  | @blank part parts names blank _ ih =>
      have dark : ¬∃ character ∈ part.toList, Text.isBlank character = false := by
        rintro ⟨character, inside, visible⟩
        rw [blank character inside] at visible
        contradiction
      rw [ih]
      simp only [List.exists_mem_cons_iff, dark, false_or]
  | named trimmed some _ _ =>
      exact iff_of_true (List.cons_ne_nil _ _) ⟨_, List.mem_cons_self, not_blank trimmed some⟩

end Names

structure NamesIn (field : String) (names : List String) : Prop where
  cut : ∃ parts, Text.IsCut ',' field parts ∧ Names parts names
  plain : ∀ name ∈ names, name ≠ "" ∧ ',' ∉ name.toList
  trimmed : ∀ name ∈ names, (∀ first ∈ name.toList.head?, Text.isBlank first = false) ∧
    ∀ last ∈ name.toList.getLast?, Text.isBlank last = false
  /-- There is a name exactly when something stands in the text beside commas and white space. -/
  some_iff : names ≠ [] ↔
    ∃ character ∈ field.toList, character ≠ ',' ∧ Text.isBlank character = false

theorem Names.names_in {field : String} {parts names : List String} (given : Names parts names)
    (cut : Text.IsCut ',' field parts) : NamesIn field names where
  cut := ⟨parts, cut, given⟩
  plain := by
    intro name member
    obtain ⟨some, part, inside, trimmed⟩ := given.of_some_part name member
    exact ⟨some, fun comma => cut.apart part inside (trimmed.subset comma)⟩
  trimmed := by
    intro name member
    obtain ⟨-, part, -, trimmed⟩ := given.of_some_part name member
    exact ⟨trimmed.starts, trimmed.ends⟩
  some_iff := by
    rw [given.ne_nil_iff]
    constructor
    · rintro ⟨part, inside, character, member, visible⟩
      have other : character ≠ ',' := fun same => cut.apart part inside (same ▸ member)
      exact ⟨character, (cut.mem_iff other).mpr ⟨part, inside, member⟩, other, visible⟩
    · rintro ⟨character, member, other, visible⟩
      obtain ⟨part, inside, member⟩ := (cut.mem_iff other).mp member
      exact ⟨part, inside, character, member, visible⟩

end Clause

def Search.predicates (search : Search) (group : Group) : List Json :=
  ((((search.body.member? "query").bind (Json.member? "bool")).bind
    (Json.member? group.key)).bind Json.asArray?).getD []

theorem Search.predicates_of_groups {search : Search} {found : List (Group × Query)}
    (shown : search.body.member? "query" = some (Query.ofGroups found).toJson) (group : Group) :
    search.predicates group = (Query.inGroup group found).map Query.toJson := by
  have listed :=
    Query.find_listing (fun group => (Query.inGroup group found).map Query.toJson) group
  rw [predicates, shown, Query.of_groups_to_json]
  simp only [Option.bind_some, Json.single, Json.member?, Entries.find?, if_pos, listed]
  split
  · rename_i empty
    exact empty.symm
  · rfl

theorem forall₂_append_cases {α β : Type} {relates : α → β → Prop} {front back : List α}
    {values : List β} (related : List.Forall₂ relates (front ++ back) values) :
    ∃ first second, values = first ++ second ∧ List.Forall₂ relates front first ∧
      List.Forall₂ relates back second :=
  ⟨values.take front.length, values.drop front.length, (List.take_append_drop _ _).symm,
    (List.forall₂_take_append values front back related.flip).flip,
    (List.forall₂_drop_append values front back related.flip).flip⟩

namespace Request

theorem predicates_of_compiled {request : Request} {search : Search}
    (structured : request.rawQuery = none) (compiled : request.compile = .ok search)
    (specific : ∀ group, ∀ clause ∈ request.clauses.ofGroup group, clause.mode ≠ .everything)
    (group : Group) :
    List.Forall₂ (Clause.IsPredicate request.value) (request.clauses.speaking group)
      (search.predicates group) := by
  obtain ⟨combined, accepted, shown⟩ := query_of_compiled structured compiled
  have specificAll : ∀ entry ∈ request.clauses.all, entry.2.mode ≠ .everything := by
    rintro ⟨own, clause⟩ member
    refine specific own clause ?_
    rw [← Clauses.in_group_all, Clauses.inGroup, List.mem_filterMap]
    exact ⟨(own, clause), member, if_pos rfl⟩
  have noEverything : ¬request.clauses.hasEverything = true := by
    simpa [Clauses.hasEverything] using specificAll
  simp only [Clauses.query, if_neg noEverything] at accepted
  split at accepted
  · contradiction
  obtain ⟨found, gathered, rfl⟩ := (Checked.map_eq_ok _ _ _).mp accepted
  have predicates := Clauses.queries_by_group specificAll gathered group
  rw [Clauses.in_group_all] at predicates
  rw [Search.predicates_of_groups shown]
  exact predicates

/-- The predicate of a multi-field clause stands between those of the clauses before it and behind
it in its group. There is none when the field text has no comma or the first comma in front.
Otherwise its fields are the names in that text, without white space around them and without commas;
and there is a name unless the text is all commas and white space. A raw body and a clause that
matches everything leave no predicate to any other clause. -/
theorem multi_field_predicates_hold_the_names (request : Request) (search : Search)
    (compiled : request.compile = .ok search) :
    (∀ raw, request.rawQuery = some raw →
      ∀ clauses, ({ request with clauses } : Request).compile = .ok search) ∧
    (request.rawQuery = none →
      (∃ group, ∃ clause ∈ request.clauses.ofGroup group, clause.mode = .everything) →
      search.body.member? "query" =
        some (.single "bool" (.single "must" (.array [.single "match_all" .emptyObject])))) ∧
    (request.rawQuery = none →
      (∀ group, ∀ clause ∈ request.clauses.ofGroup group, clause.mode ≠ .everything) →
      ∀ group before clause after, request.clauses.ofGroup group = before ++ clause :: after →
        clause.mode = .multiField →
        ∃ front own back, search.predicates group = front ++ own ++ back ∧
          List.Forall₂ (Clause.IsPredicate request.value)
            (before.filter fun clause => ¬clause.IsSilent) front ∧
          List.Forall₂ (Clause.IsPredicate request.value)
            (after.filter fun clause => ¬clause.IsSilent) back ∧
          ((own = [] ∧ clause.IsSilent) ∨
            ∃ names, Clause.NamesIn clause.field names ∧ ¬clause.IsSilent ∧
              own = [.single "multi_match" (.object
                [("query", .string (clause.wording request.value)),
                  ("fields", .strings names)])])) := by
  refine ⟨fun raw given clauses => compile_of_raw given compiled clauses,
    fun structured everything => ?_,
    fun structured specific group before clause after split mode => ?_⟩
  · obtain ⟨combined, accepted, shown⟩ := query_of_compiled structured compiled
    rw [← Clauses.has_everything_iff] at everything
    simp only [Clauses.query, if_pos everything] at accepted
    split at accepted
    · contradiction
    · injection accepted with same
      rw [shown, ← same]
      rfl
  · -- The predicates are taken apart at the place of the clause.
    have predicates := predicates_of_compiled structured compiled specific group
    rw [Clauses.speaking, split, List.filter_append] at predicates
    obtain ⟨front, further, listed, early, late⟩ := forall₂_append_cases predicates
    rw [listed]
    by_cases silent : clause.IsSilent
    · rw [List.filter_cons_of_neg (by simpa using silent)] at late
      exact ⟨front, [], further, by simp, early, late, .inl ⟨rfl, silent⟩⟩
    · rw [List.filter_cons_of_pos (by simpa using silent)] at late
      obtain ⟨own, back, ⟨asked, rfl, asks⟩, later, rfl⟩ := List.forall₂_cons_left_iff.mp late
      rw [mode] at asks ⊢
      cases asks with
      | multiField parts cut =>
          exact ⟨front, [_], back, (List.append_assoc front [_] back).symm, early, later,
            .inr ⟨_, (Clause.names_of_parts parts).names_in cut, silent, rfl⟩⟩

def spacedFieldNames : Request :=
  .ofClauses "books" ⟨[⟨"title", none, .multiField⟩,
    ⟨" \u3000title ,\t, body\u00a0,", some (.string "Rust"), .multiField⟩], [], []⟩

theorem spaced_field_names_are_held :
    ∃ search names, spacedFieldNames.compile = .ok search ∧
      search.predicates .must = [.single "multi_match" (.object
        [("query", .string "rust"), ("fields", .strings names)])] ∧ names ≠ [] := by
  obtain ⟨search, compiled⟩ : ∃ search, spacedFieldNames.compile = .ok search := ⟨_, rfl⟩
  obtain ⟨-, -, placed⟩ := multi_field_predicates_hold_the_names spacedFieldNames search compiled
  obtain ⟨front, own, back, listed, early, late, shown⟩ :=
    placed rfl (by rintro (_ | _ | _) <;> decide) .must [_] _ [] rfl rfl
  have noFront : front = [] := List.forall₂_nil_left_iff.mp early
  have noBack : back = [] := List.forall₂_nil_left_iff.mp late
  rcases shown with ⟨-, silent⟩ | ⟨names, held, -, rfl⟩
  · exact absurd silent (by decide)
  · refine ⟨search, names, compiled, ?_, held.some_iff.mpr ⟨'t', by decide, by decide, by decide⟩⟩
    rw [listed, noFront, noBack]
    rfl

def blankFieldNames : Request :=
  .ofClauses "books" ⟨[⟨" ,", some (.string "Rust"), .multiField⟩], [], []⟩

theorem blank_field_names_leave_no_field :
    ∃ search, blankFieldNames.compile = .ok search ∧
      search.predicates .must = [.single "multi_match" (.object
        [("query", .string "rust"), ("fields", .strings [])])] :=
  ⟨_, rfl, by decide⟩

end Request

end SearchKit
