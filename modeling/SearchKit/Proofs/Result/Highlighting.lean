import Mathlib.Data.List.Forall2
import SearchKit.Proofs.Json.Entries
import SearchKit.Proofs.Result.WholeNumbers
import SearchKit.Result.Hits

/-!
The documents that are made of hits. Each hit gives one document: its source with whole numbers
written as integers, in which at most the highlighted field is something else, namely the text of
its fragments. The field keeps its place when the source has it, and comes last when it has not.
-/

namespace SearchKit.Hits

set_option autoImplicit false

/-- The hits of an answer, none when it does not list them. -/
def Lists (answer : Json) (hits : List Json) : Prop :=
  (answer.member? "hits").bind (Json.member? "hits") = some (.array hits) ∨
    hits = [] ∧ ∀ items, (answer.member? "hits").bind (Json.member? "hits") ≠ some (.array items)

/-- The members of the source of a hit, none when the source is missing or no object. -/
def HasSource (hit : Json) (source : Entries Json) : Prop :=
  hit.member? "_source" = some (.object source) ∨
    source = [] ∧ ∀ members, hit.member? "_source" ≠ some (.object members)

/-- Fragments put together: texts as they are, every other value as its JSON text. -/
inductive Joins : List Json → String → Prop
  | nil : Joins [] ""
  | text {rest : List Json} {joined : String} (fragment : String) (later : Joins rest joined) :
      Joins (.string fragment :: rest) (fragment ++ joined)
  | value {fragment : Json} {rest : List Json} {joined : String}
      (noText : ∀ text, fragment ≠ .string text) (later : Joins rest joined) :
      Joins (fragment :: rest) (fragment.text ++ joined)

/-- A hit has fragments for a field that are not all empty. -/
def HasFragments (hit : Json) (field text : String) : Prop :=
  text ≠ "" ∧ ∃ fragments, Joins fragments text ∧
    (hit.member? "highlight").bind (Json.member? field) = some (.array fragments)

def settled (members : Entries Json) : Entries Json :=
  members.map fun member => (member.1, member.2.wholeNumbers)

inductive Shows (highlighted : Option String) (hit : Json) : Json → Prop
  | stored {source : Entries Json} (sourced : HasSource hit source)
      (plain : ∀ field text, highlighted = some field → ¬HasFragments hit field text) :
      Shows highlighted hit (.object (settled source))
  | replaced {before after : Entries Json} {field text : String} {old : Json}
      (sourced : HasSource hit (before ++ (field, old) :: after)) (first : field ∉ before.names)
      (asked : highlighted = some field) (found : HasFragments hit field text) :
      Shows highlighted hit (.object (settled before ++ (field, .string text) :: settled after))
  | appended {source : Entries Json} {field text : String} (sourced : HasSource hit source)
      (absent : field ∉ source.names) (asked : highlighted = some field)
      (found : HasFragments hit field text) :
      Shows highlighted hit (.object (settled source ++ [(field, .string text)]))

/-! ## What is read from an answer and its hits -/

theorem list_eq_iff (answer : Json) (hits : List Json) :
    list answer = hits ↔ Lists answer hits := by
  unfold list Lists
  cases (answer.member? "hits").bind (Json.member? "hits") with
  | none => simp [eq_comm]
  | some listed => cases listed <;> simp [Json.asArray?, eq_comm]

theorem source_eq_iff (hit : Json) (source : Entries Json) :
    (source? hit).getD [] = source ↔ HasSource hit source := by
  unfold source? HasSource
  cases hit.member? "_source" with
  | none => simp [eq_comm]
  | some stored => cases stored <;> simp [eq_comm]

theorem joins_iff (fragments : List Json) (text : String) :
    Joins fragments text ↔ String.join (fragments.map fragmentText) = text := by
  constructor
  · intro joins
    induction joins with
    | nil => rfl
    | text fragment later ih => rw [List.map_cons, String.join_cons, ih, fragmentText]
    | value noText later ih =>
        rw [List.map_cons, String.join_cons, ih, fragmentText]
        exact noText
  · rintro rfl
    induction fragments with
    | nil => exact .nil
    | cons fragment rest ih =>
        rw [List.map_cons, String.join_cons]
        cases fragment with
        | string text => exact .text text ih
        | null | bool _ | number _ | array _ | object _ => exact .value (by simp) ih

theorem highlight_text_eq_some_iff (hit : Json) (field text : String) :
    highlightText? hit field = some text ↔ HasFragments hit field text := by
  unfold highlightText? HasFragments
  simp only [joins_iff]
  cases (hit.member? "highlight").bind (Json.member? field) with
  | none => simp
  | some listed =>
      cases listed with
      | array fragments =>
          have joined : (∃ others, String.join (others.map fragmentText) = text ∧
              some (Json.array fragments) = some (.array others)) ↔
                String.join (fragments.map fragmentText) = text := by
            simp
          rw [joined, Option.bind_some, Json.asArray?]
          simp only [String.isEmpty_iff, Option.ite_none_left_eq_some, Option.some.injEq]
          constructor <;>
          · rintro ⟨nonempty, rfl⟩
            exact ⟨nonempty, rfl⟩
      | null | bool _ | number _ | string _ | object _ => simp [Json.asArray?]

/-! ## Documents -/

theorem settled_eq (members : Entries Json) :
    (Json.object members).wholeNumbers = .object (settled members) :=
  Json.changes_numbers_whole.object members

theorem document_eq_stored {highlighted : Option String} {hit : Json} {source : Entries Json}
    (sourced : HasSource hit source)
    (plain : ∀ field text, highlighted = some field → ¬HasFragments hit field text) :
    document highlighted hit = .object (settled source) := by
  rw [← source_eq_iff] at sourced
  cases highlighted with
  | none =>
      rw [document, sourced]
      exact settled_eq source
  | some field =>
      have none : highlightText? hit field = none := by
        rw [Option.eq_none_iff_forall_ne_some]
        intro text found
        exact plain field text rfl ((highlight_text_eq_some_iff hit field text).mp found)
      simp only [document, sourced, none]
      exact settled_eq source

theorem document_eq_marked {hit : Json} {field text : String} {source : Entries Json}
    (sourced : HasSource hit source) (found : HasFragments hit field text) :
    document (some field) hit = .object (settled (Entries.put field (.string text) source)) := by
  rw [← source_eq_iff] at sourced
  rw [← highlight_text_eq_some_iff] at found
  simp only [document, sourced, found]
  exact settled_eq _

theorem settled_append (before after : Entries Json) :
    settled (before ++ after) = settled before ++ settled after := List.map_append

theorem shows_marked {hit : Json} {field text : String} {source : Entries Json}
    (sourced : HasSource hit source) (found : HasFragments hit field text) :
    Shows (some field) hit (.object (settled (Entries.put field (.string text) source))) := by
  by_cases present : field ∈ source.names
  · obtain ⟨before, old, after, rfl, first⟩ := Entries.exists_first_of_mem present
    rw [Entries.put_of_first _ first, settled_append]
    exact .replaced sourced first rfl found
  · rw [Entries.put_of_not_mem _ present, settled_append]
    exact .appended sourced present rfl found

theorem document_eq_iff (highlighted : Option String) (hit shown : Json) :
    document highlighted hit = shown ↔ Shows highlighted hit shown := by
  constructor
  · rintro rfl
    have sourced := (source_eq_iff hit _).mp rfl
    by_cases marked : ∃ field text, highlighted = some field ∧ HasFragments hit field text
    · obtain ⟨field, text, rfl, found⟩ := marked
      rw [document_eq_marked sourced found]
      exact shows_marked sourced found
    · have plain : ∀ field text, highlighted = some field → ¬HasFragments hit field text :=
        fun field text asked found => marked ⟨field, text, asked, found⟩
      rw [document_eq_stored sourced plain]
      exact .stored sourced plain
  · intro shows
    cases shows with
    | stored sourced plain => exact document_eq_stored sourced plain
    | replaced sourced first asked found =>
        rw [asked, document_eq_marked sourced found, Entries.put_of_first _ first, settled_append]
        rfl
    | appended sourced absent asked found =>
        rw [asked, document_eq_marked sourced found, Entries.put_of_not_mem _ absent,
          settled_append]
        rfl

/-- The documents of an answer are one for each of its hits, in their order. Each is the source of
its hit with whole numbers written as integers, and differs from that at most in the highlighted
field: with fragments, this holds their text, at its place in the source or else behind all other
fields. -/
theorem documents_differ_at_most_in_the_highlighted_field (highlighted : Option String)
    (answer : Json) (shown : List Json) :
    documents highlighted answer = shown ↔
      ∃ hits, Lists answer hits ∧ List.Forall₂ (Shows highlighted) hits shown := by
  have each : Shows highlighted = fun hit json => document highlighted hit = json := by
    funext hit json
    exact propext (document_eq_iff highlighted hit json).symm
  calc documents highlighted answer = shown
    _ ↔ List.Forall₂ Eq ((list answer).map (document highlighted)) shown := by
        rw [List.forall₂_eq_eq_eq, documents]
    _ ↔ List.Forall₂ (Shows highlighted) (list answer) shown := by
        rw [List.forall₂_map_left_iff, each]
    _ ↔ ∃ hits, Lists answer hits ∧ List.Forall₂ (Shows highlighted) hits shown := by
        simp only [← list_eq_iff, exists_eq_left']

/-- A field of the source keeps its place, and one that is not there comes last. -/
example :
    let hit : Json := .object [
      ("_source", .object [("title", .string "rust"), ("id", .ofUInt64 7)]),
      ("highlight", .object
        [("title", .strings ["<b>ru", "st</b>"]), ("body", .array [.bool true])])]
    document (some "title") hit = .object [("title", .string "<b>rust</b>"), ("id", .ofUInt64 7)] ∧
      document (some "body") hit =
        .object [("title", .string "rust"), ("id", .ofUInt64 7), ("body", .string "true")] := by
  decide

end SearchKit.Hits
