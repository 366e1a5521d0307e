import SearchKit.Proofs.Checked
import SearchKit.Proofs.Text.LowerCase
import SearchKit.Query.Compile

/-!
The bounds of range clauses. The text of a range is put in lower case as a whole and cut afterwards,
and still each bound is its own part of the given text in lower case: the hash sign keeps a capital
sigma at the end of one bound from seeing the letters of the next.
-/

namespace SearchKit.Clause

set_option autoImplicit false

/-- A text in lower case gives a range exactly when the given text has two bounds, and the bounds of
the range are those, each in lower case on its own. -/
theorem range_query_lower_iff {text : String} {parts : List String}
    (cut : Text.IsCut '#' text parts) (field : String) (query : Query) :
    rangeQuery field (Text.lower text) = .ok query ↔
      ∃ lower upper rest, parts = lower :: upper :: rest ∧ lower ≠ "" ∧ upper ≠ "" ∧
        query = .range field (Text.lower lower) (Text.lower upper) := by
  have lowered := Text.split_eq_of_is_cut (Text.is_cut_lower Text.is_mark_hash cut)
  rw [rangeQuery, lowered]
  match parts with
  | [] => simp
  | [single] => simp
  | lower :: upper :: rest =>
      simp only [List.map_cons, String.isEmpty_iff, Bool.or_eq_true, Text.lower_eq_empty_iff]
      by_cases missing : lower = "" ∨ upper = ""
      · rw [if_pos missing]
        simp only [reduceCtorEq, List.cons.injEq, false_iff]
        rintro ⟨_, _, _, ⟨rfl, rfl, -⟩, someLower, someUpper, -⟩
        exact missing.elim someLower someUpper
      · rw [if_neg missing]
        rw [not_or] at missing
        simp [missing, eq_comm]

def AsksBetween (clause : Clause) (shared : Option Json) (above below : String) : Prop :=
  ∃ query, clause.query? shared = .ok (some query) ∧
    query.toJson = .single "range" (.single clause.field
      (.object [("gt", .string above), ("lt", .string below)]))

theorem query_of_range {clause : Clause} (isRange : clause.mode = .range)
    (named : clause.field ≠ "") (shared : Option Json) :
    clause.query? shared =
      (rangeQuery clause.field (Text.lower (clause.sought shared))).map some := by
  have given : clause.field.isEmpty = false := by
    simpa using named
  simp [query?, given, isRange]

/-- The bounds of a range are the first two parts of its text between hash signs, as they stand
before anything is put in lower case. The clause compiles exactly when both are there and not empty,
and each bound is then its own part in lower case, whatever the other part is and whatever follows
them. -/
theorem range_bounds_are_lowered_apart {clause : Clause} {shared : Option Json}
    (isRange : clause.mode = .range) (named : clause.field ≠ "") {parts : List String}
    (cut : Text.IsCut '#' (clause.sought shared) parts) :
    ((∃ query, clause.query? shared = .ok query) ↔
      ∃ lower upper rest, parts = lower :: upper :: rest ∧ lower ≠ "" ∧ upper ≠ "") ∧
    (∀ lower upper rest, parts = lower :: upper :: rest → lower ≠ "" → upper ≠ "" →
      clause.AsksBetween shared (Text.lower lower) (Text.lower upper)) ∧
    ∀ lower upper, clause.sought shared = lower ++ "#" ++ upper →
      '#' ∉ lower.toList → '#' ∉ upper.toList → lower ≠ "" → upper ≠ "" →
        clause.AsksBetween shared (Text.lower lower) (Text.lower upper) := by
  have bounded : ∀ lower upper rest, parts = lower :: upper :: rest → lower ≠ "" → upper ≠ "" →
      clause.AsksBetween shared (Text.lower lower) (Text.lower upper) := by
    intro lower upper rest listed someLower someUpper
    have accepted := (range_query_lower_iff cut clause.field _).mpr
      ⟨lower, upper, rest, listed, someLower, someUpper, rfl⟩
    refine ⟨.range clause.field (Text.lower lower) (Text.lower upper), ?_,
      by simp [Query.toJson, Query.onField]⟩
    rw [query_of_range isRange named, accepted]
    rfl
  refine ⟨?_, bounded, ?_⟩
  · rw [query_of_range isRange named]
    simp only [Checked.map_eq_ok, range_query_lower_iff cut]
    constructor
    · rintro ⟨_, _, ⟨lower, upper, rest, listed, someLower, someUpper, -⟩, -⟩
      exact ⟨lower, upper, rest, listed, someLower, someUpper⟩
    · rintro ⟨lower, upper, rest, listed, someLower, someUpper⟩
      exact ⟨_, _, ⟨lower, upper, rest, listed, someLower, someUpper, rfl⟩, rfl⟩
  · intro lower upper text inLower inUpper someLower someUpper
    have two : Text.IsCut '#' (clause.sought shared) [lower, upper] :=
      { some_part := by simp
        apart := by simp [inLower, inUpper]
        joined := by
          apply String.toList_injective
          rw [text, Text.to_list_join]
          simp }
    refine bounded lower upper [] ?_ someLower someUpper
    rw [← Text.split_eq_of_is_cut cut, Text.split_eq_of_is_cut two]

def sigmaRange : Clause := ⟨"street", some (.string "ΟΔΟΣ#ΣΑΣ#x"), .range⟩

theorem sigma_range_is_lowered_apart :
    sigmaRange.mode = .range ∧ sigmaRange.AsksBetween none "οδος" "σας" := by
  have cut := Text.is_cut_split '#' (sigmaRange.sought none)
  have lower : Text.lower "ΟΔΟΣ" = "οδος" := by decide +kernel
  have upper : Text.lower "ΣΑΣ" = "σας" := by decide +kernel
  have bounded := (range_bounds_are_lowered_apart rfl (by decide) cut).2.1 "ΟΔΟΣ" "ΣΑΣ" ["x"]
    (by decide +kernel) (by decide) (by decide)
  rw [lower, upper] at bounded
  exact ⟨rfl, bounded⟩

end SearchKit.Clause
