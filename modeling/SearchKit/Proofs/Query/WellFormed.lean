import SearchKit.Proofs.Checked
import SearchKit.Proofs.Engine.Running
import SearchKit.Proofs.Query.Predicates
import SearchKit.Proofs.Query.RangeBounds

/-!
Which requests compile. What a request has to hold is said here of its texts as they are given, and
a request compiles exactly when it holds that; a batch compiles when all its requests do, and
otherwise it is refused like the first of them that does not.
-/

namespace SearchKit

set_option autoImplicit false

/-! ## Clauses -/

/-- Two bounds with a hash sign between them, and possibly more behind another one. -/
def HasBounds (text : String) : Prop :=
  ∃ lower upper rest, Text.IsCut '#' text (lower :: upper :: rest) ∧ lower ≠ "" ∧ upper ≠ ""

namespace Clause

/-- A clause that can be asked: it names its field, and a range has its bounds. -/
structure WellFormed (shared : Option Json) (clause : Clause) : Prop where
  named : clause.field ≠ ""
  bounded : clause.mode = .range → HasBounds (clause.sought shared)

theorem range_query_succeeds_iff (field text : String) :
    (∃ query, rangeQuery field (Text.lower text) = .ok query) ↔ HasBounds text := by
  constructor
  · rintro ⟨query, accepted⟩
    have cut := Text.is_cut_split '#' text
    obtain ⟨lower, upper, rest, listed, someLower, someUpper, -⟩ :=
      (range_query_lower_iff cut field query).mp accepted
    exact ⟨lower, upper, rest, listed ▸ cut, someLower, someUpper⟩
  · rintro ⟨lower, upper, rest, cut, someLower, someUpper⟩
    exact ⟨_, (range_query_lower_iff cut field _).mpr
      ⟨lower, upper, rest, rfl, someLower, someUpper, rfl⟩⟩

theorem query_succeeds_iff {clause : Clause} {shared : Option Json}
    (specific : clause.mode ≠ .everything) :
    (∃ query, clause.query? shared = .ok query) ↔ clause.WellFormed shared := by
  obtain ⟨field, value, mode⟩ := clause
  simp only [query?]
  split
  · rename_i nameless
    have none : field = "" := by simpa using (Bool.and_eq_true_iff.mp nameless).1
    simp only [reduceCtorEq, exists_false, false_iff]
    intro wellFormed
    exact wellFormed.named none
  · rename_i named
    have some : field ≠ "" := by
      intro none
      apply named
      simpa [none] using specific
    cases mode with
    | everything => exact absurd rfl specific
    | range =>
        simp only [Checked.map_eq_ok]
        constructor
        · rintro ⟨_, query, accepted, -⟩
          exact ⟨some, fun _ => (range_query_succeeds_iff field _).mp ⟨query, accepted⟩⟩
        · intro wellFormed
          obtain ⟨query, accepted⟩ :=
            (range_query_succeeds_iff field _).mpr (wellFormed.bounded rfl)
          exact ⟨_, query, accepted, rfl⟩
    | term | leading | queryString | words | phrase | multiField | wildcard | regexp =>
        simp only [Except.ok.injEq, exists_eq', true_iff]
        exact ⟨some, by simp⟩

end Clause

namespace Clauses

theorem queries_succeed_iff {shared : Option Json} (entries : List (Group × Clause)) :
    (∃ found, queries shared entries = .ok found) ↔
      ∀ entry ∈ entries, ∃ query, entry.2.query? shared = .ok query := by
  induction entries with
  | nil => simp [queries]
  | cons entry rest ih =>
      obtain ⟨group, clause⟩ := entry
      rw [List.forall_mem_cons, ← ih]
      simp only [queries, Checked.bind_eq_ok, Checked.pure_eq_ok]
      constructor
      · rintro ⟨_, query, asked, further, later, -⟩
        exact ⟨⟨query, asked⟩, ⟨further, later⟩⟩
      · rintro ⟨⟨query, asked⟩, ⟨further, later⟩⟩
        exact ⟨_, query, asked, further, later, rfl⟩

/-- There is a clause, and they can all be asked unless one of them asks for everything. -/
structure WellFormed (shared : Option Json) (clauses : Clauses) : Prop where
  some_clause : clauses.all ≠ []
  askable : (∃ entry ∈ clauses.all, entry.2.mode = .everything) ∨
    ∀ entry ∈ clauses.all, entry.2.WellFormed shared

theorem query_succeeds_iff (clauses : Clauses) (shared : Option Json) :
    (∃ query, clauses.query shared = .ok query) ↔ clauses.WellFormed shared := by
  have empty : clauses.isEmpty = true ↔ clauses.all = [] := by
    simp [isEmpty, all, and_assoc]
  have everything : clauses.hasEverything = true ↔
      ∃ entry ∈ clauses.all, entry.2.mode = .everything := by
    simp [hasEverything]
  unfold query
  split
  · rename_i none
    simp only [reduceCtorEq, exists_false, false_iff]
    intro wellFormed
    exact wellFormed.some_clause (empty.mp none)
  · rename_i some
    rw [empty] at some
    split
    · rename_i present
      exact ⟨fun _ => ⟨some, .inl (everything.mp present)⟩, fun _ => ⟨_, rfl⟩⟩
    · rename_i absent
      rw [everything] at absent
      have specific : ∀ entry ∈ clauses.all, entry.2.mode ≠ .everything :=
        fun entry member same => absent ⟨entry, member, same⟩
      have each : (∀ entry ∈ clauses.all, ∃ query, entry.2.query? shared = .ok query) ↔
          ∀ entry ∈ clauses.all, entry.2.WellFormed shared :=
        forall₂_congr fun entry member => Clause.query_succeeds_iff (specific entry member)
      have mapped : (∃ query, (queries shared clauses.all).map Query.ofGroups = .ok query) ↔
          ∃ found, queries shared clauses.all = .ok found := by
        simp [Checked.map_eq_ok]
      rw [mapped, queries_succeed_iff, each]
      exact ⟨fun askable => ⟨some, .inr askable⟩,
        fun wellFormed => wellFormed.askable.resolve_left absent⟩

end Clauses

/-! ## Requests -/

namespace Request

/-- A request that can be searched with: its own query is a JSON object, or it has clauses that can
be asked; and highlighting, where it is enabled, names a field. -/
structure WellFormed (request : Request) : Prop where
  raw : ∀ text, request.rawQuery = some text → ∃ members, Json.ofText text = .ok (.object members)
  clauses : request.rawQuery = none → request.clauses.WellFormed request.value
  highlight : ∀ highlight, request.highlight = some highlight → highlight.enabled = true →
    ∃ field, highlight.field = some field ∧ field ≠ ""

theorem base_succeeds_iff (request : Request) :
    (∃ base, request.baseAndQuery = .ok base) ↔
      (∀ text, request.rawQuery = some text →
        ∃ members, Json.ofText text = .ok (.object members)) ∧
      (request.rawQuery = none → request.clauses.WellFormed request.value) := by
  cases given : request.rawQuery with
  | some raw =>
      simp only [Prod.exists, base_of_raw given]
      simp
  | none =>
      simp only [baseAndQuery, given, ← Clauses.query_succeeds_iff, Checked.map_eq_ok]
      simp

theorem marking_succeeds_iff (request : Request) :
    (∃ marking, request.marking = .ok marking) ↔
      ∀ highlight, request.highlight = some highlight → highlight.enabled = true →
        ∃ field, highlight.field = some field ∧ field ≠ "" := by
  unfold marking
  split
  · rename_i none
    simp [none]
  · rename_i highlight given
    simp only [given, Option.some.injEq, forall_eq']
    split
    · rename_i enabled
      split
      · rename_i none
        simp [enabled, none]
      · rename_i field named
        split
        · rename_i empty
          have none : field = "" := by simpa using empty
          simp [enabled, named, none]
        · rename_i some
          have some : field ≠ "" := by simpa using some
          simp [named, some]
    · rename_i disabled
      simp [disabled]

theorem compiles_iff (request : Request) :
    (∃ search, request.compile = .ok search) ↔ request.WellFormed := by
  have based := request.base_succeeds_iff
  have marked := request.marking_succeeds_iff
  constructor
  · rintro ⟨search, compiled⟩
    obtain ⟨base, query, marking, baseFound, markingFound, -⟩ :=
      (compile_eq_ok request search).mp compiled
    obtain ⟨raw, clauses⟩ := based.mp ⟨_, baseFound⟩
    exact ⟨raw, clauses, marked.mp ⟨_, markingFound⟩⟩
  · intro wellFormed
    obtain ⟨⟨base, query⟩, baseFound⟩ := based.mpr ⟨wellFormed.raw, wellFormed.clauses⟩
    obtain ⟨marking, markingFound⟩ := marked.mpr wellFormed.highlight
    exact ⟨_, (compile_eq_ok request _).mpr ⟨base, query, marking, baseFound, markingFound, rfl⟩⟩

/-- A request compiles exactly when it is well-formed, and any other is refused as an invalid
request before anything is done. A batch gives the searches of its requests in their order, or the
refusal of the first request that has one. -/
theorem exactly_well_formed_requests_compile :
    (∀ request : Request,
      ((∃ search, request.compile = .ok search) ↔ request.WellFormed) ∧
      (¬request.WellFormed → ∃ refusal, request.compile = .error refusal ∧
        ∀ {σ : Type} (client : Client σ) (state : σ),
          Operation.transcript client (Operation.ofChecked request.compile) state =
            ⟨.error (.invalidRequest refusal), [], [], state⟩)) ∧
    ∀ requests : List Request,
      ((∃ searches, compileAll requests = .ok searches) ↔
        ∀ request ∈ requests, request.WellFormed) ∧
      (∀ searches, compileAll requests = .ok searches ↔
        List.Forall₂ (fun request search => request.compile = .ok search) requests searches) ∧
      ∀ refusal, compileAll requests = .error refusal ↔
        ∃ before request after, requests = before ++ request :: after ∧
          (∀ earlier ∈ before, earlier.WellFormed) ∧ request.compile = .error refusal := by
  refine ⟨fun request => ⟨request.compiles_iff, fun illFormed => ?_⟩, fun requests => ⟨?_, ?_, ?_⟩⟩
  · rw [← compiles_iff] at illFormed
    obtain ⟨refusal, refused⟩ := (Checked.succeeds_or_fails request.compile).resolve_left illFormed
    refine ⟨refusal, refused, fun client state => ?_⟩
    rw [refused]
    rfl
  · simp only [← compiles_iff, compileAll, Checked.map_m_eq_ok, Checked.exists_forall₂_iff]
  · exact fun searches => Checked.map_m_eq_ok compile requests searches
  · intro refusal
    simp only [← compiles_iff, compileAll, Checked.map_m_eq_error]

def openRange : Request :=
  .ofClauses "books"
    ⟨[⟨"title", some (.string "Rust"), .term⟩], [⟨"year", some (.string "1990#"), .range⟩], []⟩

def openRangeOfEverything : Request :=
  { openRange with clauses := openRange.clauses.add .mustNot .everything }

theorem open_range_compiles_beside_everything :
    compileAll [openRangeOfEverything, openRange] =
        .error (.rangeBoundMissing "year" "1990#") ∧
      openRangeOfEverything.WellFormed ∧ ¬openRange.WellFormed := by
  obtain ⟨single, batch⟩ := exactly_well_formed_requests_compile
  have compiled : ∃ search, openRangeOfEverything.compile = .ok search := ⟨_, rfl⟩
  have refused : openRange.compile = .error (.rangeBoundMissing "year" "1990#") := by decide +kernel
  have wellFormed := (single openRangeOfEverything).1.mp compiled
  refine ⟨?_, wellFormed, ?_⟩
  · refine ((batch _).2.2 _).mpr ⟨[openRangeOfEverything], openRange, [], rfl, ?_, refused⟩
    exact List.forall_mem_singleton.mpr wellFormed
  · intro other
    obtain ⟨search, accepted⟩ := (single openRange).1.mpr other
    rw [refused] at accepted
    contradiction

end Request

end SearchKit
