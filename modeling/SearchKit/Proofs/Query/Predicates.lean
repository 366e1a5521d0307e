import SearchKit.Proofs.Query.Compilation
import SearchKit.Proofs.Query.Listing
import SearchKit.Proofs.Text.Cutting

/-!
What a set of clauses asks the engine for. Each mode has one form of predicate, given here as a
judgment on JSON that does not go through queries. The compiled query of a request lists, for each
group and in the order of its clauses, one such predicate a clause; only a multi-field clause that
names a single field is left out, and a clause that matches everything replaces all others.
-/

namespace SearchKit

set_option autoImplicit false

/-- What a predicate of a mode says about a field when it looks for a text. -/
inductive Asks (field text : String) : MatchMode → Json → Prop where
  | term : Asks field text .term (.single field (.single "value" (.string text)))
  | leading : Asks field text .leading (.single field (.single "value" (.string text)))
  | wildcard : Asks field text .wildcard (.single field (.single "value" (.string text)))
  | regexp : Asks field text .regexp (.single field (.single "value" (.string text)))
  | words : Asks field text .words (.single field (.single "query" (.string text)))
  | phrase : Asks field text .phrase (.single field (.single "query" (.string text)))
  | queryString :
      Asks field text .queryString
        (.object [("query", .string text), ("default_field", .string field)])
  | multiField (parts : List String) (cut : Text.IsCut ',' field parts) :
      Asks field text .multiField
        (.object [("query", .string text),
          ("fields", .strings ((parts.map Text.trim).filter fun name => name ≠ ""))])
  | range (above below : String) (rest : List String)
      (cut : Text.IsCut '#' text (above :: below :: rest)) :
      Asks field text .range
        (.single field (.object [("gt", .string above), ("lt", .string below)]))

namespace Clause

/-- The scalar text of the clause's own value, else of the shared one, else nothing. Only regular
expressions keep their case. -/
def wording (clause : Clause) (shared : Option Json) : String :=
  let exact :=
    match clause.value, shared with
    | some own, _ => own.scalarText
    | none, some value => value.scalarText
    | none, none => ""
  if clause.mode = .regexp then exact else Text.lower exact

/-- A multi-field clause without a comma in its field, or with the first comma in front. -/
def IsSilent (clause : Clause) : Prop :=
  clause.mode = .multiField ∧ (',' ∉ clause.field.toList ∨ clause.field.toList.head? = some ',')

instance : DecidablePred IsSilent := fun clause =>
  inferInstanceAs (Decidable (clause.mode = .multiField ∧
    (',' ∉ clause.field.toList ∨ clause.field.toList.head? = some ',')))

/-- A predicate of the kind that the clause's mode names, on its field and with its wording. -/
def IsPredicate (shared : Option Json) (clause : Clause) (json : Json) : Prop :=
  ∃ asked, json = .single clause.mode.word asked ∧
    Asks clause.field (clause.wording shared) clause.mode asked

theorem wording_eq_sought (clause : Clause) (shared : Option Json) :
    clause.wording shared =
      if clause.mode = .regexp then clause.sought shared else Text.lower (clause.sought shared) := by
  unfold wording sought
  cases clause.value <;> cases shared <;> rfl

theorem names_several_iff (names : String) :
    namesSeveral names = true ↔ ',' ∈ names.toList ∧ names.toList.head? ≠ some ',' := by
  unfold namesSeveral
  cases names.toList with
  | nil => simp
  | cons first rest =>
      by_cases comma : first = ','
      · simp [comma]
      · simp [comma, Ne.symm comma]

theorem range_query_eq_ok {field value : String} {query : Query}
    (accepted : rangeQuery field value = .ok query) :
    ∃ above below rest, query = .range field above below ∧
      Text.IsCut '#' value (above :: below :: rest) := by
  unfold rangeQuery at accepted
  split at accepted
  · rename_i above below rest cut
    split at accepted
    · contradiction
    · injection accepted with same
      exact ⟨above, below, rest, same.symm, Text.split_eq_iff_is_cut.mp cut⟩
  · contradiction

theorem query_eq_ok {clause : Clause} {shared : Option Json} {query : Option Query}
    (specific : clause.mode ≠ .everything) (accepted : clause.query? shared = .ok query) :
    (clause.IsSilent ∧ query = none) ∨
      (¬clause.IsSilent ∧ ∃ asking, query = some asking ∧ clause.IsPredicate shared asking.toJson) := by
  have worded := clause.wording_eq_sought shared
  obtain ⟨field, value, mode⟩ := clause
  simp only [query?] at accepted
  split at accepted
  · contradiction
  cases mode with
  | everything => exact absurd rfl specific
  | multiField =>
      injection accepted with same
      subst same
      by_cases several : namesSeveral field = true
      · have audible := (names_several_iff field).mp several
        refine .inr ⟨by simp [IsSilent, audible], _, if_pos several, _, rfl, ?_⟩
        rw [worded]
        have fields : fieldNames field =
            ((Text.split ',' field).map Text.trim).filter fun name => name ≠ "" := by
          apply List.filter_congr
          intro name _
          have blank : name.isEmpty = decide (name = "") := by
            rw [Bool.eq_iff_iff]
            simp
          simp [blank]
        rw [fields]
        exact .multiField _ (Text.is_cut_split ',' field)
      · have quiet : ¬(',' ∈ field.toList ∧ field.toList.head? ≠ some ',') := by
          rwa [← names_several_iff]
        refine .inl ⟨⟨rfl, ?_⟩, if_neg several⟩
        by_cases comma : ',' ∈ field.toList
        · exact .inr (by simpa [comma] using quiet)
        · exact .inl comma
  | range =>
      obtain ⟨asking, bounded, rfl⟩ := (Checked.map_eq_ok _ _ _).mp accepted
      obtain ⟨above, below, rest, rfl, cut⟩ := range_query_eq_ok bounded
      refine .inr ⟨by simp [IsSilent], _, rfl, _, rfl, ?_⟩
      rw [worded]
      exact .range above below rest cut
  | term | leading | queryString | words | phrase | wildcard | regexp =>
      injection accepted with same
      subst same
      refine .inr ⟨by simp [IsSilent], _, rfl, _, rfl, ?_⟩
      rw [worded]
      constructor

end Clause

namespace Clauses

def ofGroup (clauses : Clauses) : Group → List Clause
  | .must => clauses.must
  | .should => clauses.should
  | .mustNot => clauses.mustNot

def speaking (clauses : Clauses) (group : Group) : List Clause :=
  (clauses.ofGroup group).filter fun clause => ¬clause.IsSilent

def inGroup (group : Group) (entries : List (Group × Clause)) : List Clause :=
  entries.filterMap fun entry => if entry.1 = group then some entry.2 else Option.none

theorem in_group_cons (group own : Group) (clause : Clause) (rest : List (Group × Clause)) :
    inGroup group ((own, clause) :: rest) =
      if own = group then clause :: inGroup group rest else inGroup group rest := by
  by_cases here : own = group <;> simp [inGroup, here]

theorem query_in_group_append (group own : Group) (query : Option Query)
    (further : List (Group × Query)) :
    Query.inGroup group ((query.map (own, ·)).toList ++ further) =
      (if own = group then query.toList else []) ++ Query.inGroup group further := by
  cases query <;> by_cases here : own = group <;> simp [Query.inGroup, here]

theorem in_group_all (clauses : Clauses) (group : Group) :
    inGroup group clauses.all = clauses.ofGroup group := by
  cases group <;>
    simp [inGroup, all, ofGroup, List.filterMap_append, List.filterMap_map]

theorem has_everything_iff (clauses : Clauses) :
    clauses.hasEverything = true ↔
      ∃ group, ∃ clause ∈ clauses.ofGroup group, clause.mode = .everything := by
  simp only [← in_group_all, hasEverything, inGroup, List.any_eq_true, List.mem_filterMap,
    beq_iff_eq]
  constructor
  · rintro ⟨⟨group, clause⟩, member, mode⟩
    exact ⟨group, clause, ⟨(group, clause), member, if_pos rfl⟩, mode⟩
  · rintro ⟨group, clause, ⟨entry, member, found⟩, mode⟩
    split at found
    · injection found with same
      exact ⟨entry, member, by rw [same, mode]⟩
    · contradiction

theorem queries_by_group {shared : Option Json} {entries : List (Group × Clause)}
    {found : List (Group × Query)} (specific : ∀ entry ∈ entries, entry.2.mode ≠ .everything)
    (accepted : queries shared entries = .ok found) (group : Group) :
    List.Forall₂ (Clause.IsPredicate shared)
      ((inGroup group entries).filter fun clause => ¬clause.IsSilent)
      ((Query.inGroup group found).map Query.toJson) := by
  induction entries generalizing found with
  | nil =>
      injection accepted with same
      subst same
      exact .nil
  | cons entry rest ih =>
      obtain ⟨own, clause⟩ := entry
      simp only [queries, Checked.bind_eq_ok, Checked.pure_eq_ok] at accepted
      obtain ⟨query, asked, further, later, rfl⟩ := accepted
      have tail := ih (fun entry member => specific entry (List.mem_cons_of_mem _ member)) later
      have head := Clause.query_eq_ok (specific (own, clause) (by simp)) asked
      rw [in_group_cons, query_in_group_append]
      by_cases here : own = group
      · rw [if_pos here, if_pos here]
        rcases head with ⟨silent, rfl⟩ | ⟨audible, asking, rfl, predicate⟩
        · rw [List.filter_cons_of_neg (by simpa using silent)]
          exact tail
        · rw [List.filter_cons_of_pos (by simpa using audible)]
          exact .cons predicate tail
      · rw [if_neg here, if_neg here]
        exact tail

end Clauses

namespace Request

/-- Compiling loses, repeats, reorders and moves no clause. With a clause that matches everything
the query asks for everything and nothing else. Otherwise each group lists the predicates of its
speaking clauses, one each and in their order, and a group without any is left out. -/
theorem clauses_compile_to_predicates (request : Request) (search : Search)
    (structured : request.rawQuery = none) (compiled : request.compile = .ok search) :
    ∃ groups : Entries Json,
      search.body.member? "query" = some (.single "bool" (.object groups)) ∧
      ((∃ group, ∃ clause ∈ request.clauses.ofGroup group, clause.mode = .everything) →
        groups = [("must", .array [.single "match_all" .emptyObject])]) ∧
      ((∀ group, ∀ clause ∈ request.clauses.ofGroup group, clause.mode ≠ .everything) →
        groups.names =
          (Group.every.filter fun group => request.clauses.speaking group ≠ []).map Group.key ∧
        ∀ group, ∃ predicates,
          Entries.find? group.key groups =
            (if predicates = [] then none else some (.array predicates)) ∧
          List.Forall₂ (Clause.IsPredicate request.value)
            (request.clauses.speaking group) predicates) := by
  obtain ⟨base, query, marking, based, marked, rfl⟩ := (compile_eq_ok request search).mp compiled
  obtain ⟨rfl, combined, rfl, accepted⟩ := base_of_clauses structured based
  have shown : (Overlay.body (request.overlay (some combined) marking) []).member? "query" =
      some combined.toJson := by
    simp [Overlay.body, Json.member?, overlay]
  simp only [shown]
  simp only [Clauses.query] at accepted
  split at accepted
  · contradiction
  split at accepted
  · rename_i everything
    injection accepted with same
    subst same
    refine ⟨_, rfl, fun _ => ?_, fun specific => ?_⟩
    · simp [Query.presentGroups, Query.listJson, Query.toJson, Group.key]
    · obtain ⟨group, clause, member, mode⟩ := request.clauses.has_everything_iff.mp everything
      exact absurd mode (specific group clause member)
  · rename_i specific
    obtain ⟨found, gathered, rfl⟩ := (Checked.map_eq_ok _ _ _).mp accepted
    have noneMatchesAll : ∀ entry ∈ request.clauses.all, entry.2.mode ≠ .everything := by
      simpa [Clauses.hasEverything] using specific
    have predicates := Clauses.queries_by_group noneMatchesAll gathered
    simp only [Clauses.in_group_all] at predicates
    refine ⟨_, congrArg some (Query.of_groups_to_json found), ?_, fun _ => ⟨?_, fun group => ?_⟩⟩
    · intro everything
      exact absurd (request.clauses.has_everything_iff.mpr everything) specific
    · rw [Query.names_listing]
      congr 1
      apply List.filter_congr
      intro group _
      have sameLength := (predicates group).length_eq
      simp only [ne_eq, ← List.length_eq_zero_iff, Clauses.speaking, sameLength]
    · exact ⟨_, Query.find_listing _ group, predicates group⟩

def mixedClauses : Request :=
  { Request.empty with
    value := some (.string "A.*B")
    clauses :=
      { must := [⟨"title", none, .multiField⟩, ⟨"title, body,", some (.string "Rust"), .multiField⟩,
          ⟨"year", some (.string "1990#2000#x"), .range⟩]
        should := [⟨"title", none, .multiField⟩]
        mustNot := [⟨"name", none, .regexp⟩] } }

theorem mixed_clauses_compile_to_predicates :
    ∃ search, mixedClauses.compile = .ok search ∧ ∃ groups,
      search.body.member? "query" = some (.single "bool" (.object groups)) ∧
        Entries.names groups = ["must", "must_not"] := by
  obtain ⟨search, compiled⟩ : ∃ search, mixedClauses.compile = .ok search := ⟨_, rfl⟩
  obtain ⟨groups, shown, _, specific⟩ :=
    clauses_compile_to_predicates mixedClauses search rfl compiled
  have named := (specific (by rintro (_ | _ | _) <;> decide)).1
  have spoken : (Group.every.filter fun group =>
      mixedClauses.clauses.speaking group ≠ []).map Group.key = ["must", "must_not"] := by decide
  exact ⟨search, compiled, groups, shown, named.trans spoken⟩

end Request

end SearchKit
