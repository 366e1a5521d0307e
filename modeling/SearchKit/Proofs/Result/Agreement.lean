import SearchKit.Proofs.Query.Compilation
import SearchKit.Proofs.Result.Highlighting
import SearchKit.Proofs.Result.Totals

/-!
A request shapes the body that is sent and the result that is made of the answer. The two agree: the
page of the result is the one that the body asks for, and the field whose text is replaced in the
documents is the one that the body asks to highlight.
-/

namespace SearchKit

set_option autoImplicit false

/-! ## Documents -/

namespace Hits

/-- The document of a hit as it is stored: its source, in which every number has its normal form and
nothing else is changed. -/
def Stores (hit document : Json) : Prop :=
  ∃ source, HasSource hit source ∧
    Json.Leafwise Json.Number.Normalizes (.object source) document

/-- The document of a hit next to the stored one. Only the one field can differ, and it does so only
by fragments that were found for it, whose text it then has. -/
structure Substitutes (field : String) (hit stored document : Json) : Prop where
  marked : ∀ text, HasFragments hit field text → document.member? field = some (.string text)
  unmarked : (∀ text, ¬HasFragments hit field text) → document = stored
  others_stored : ∀ name, name ≠ field → document.member? name = stored.member? name

theorem find_settled (name : String) (members : Entries Json) :
    Entries.find? name (settled members) = (Entries.find? name members).map Json.wholeNumbers := by
  induction members with
  | nil => rfl
  | cons head rest ih =>
      obtain ⟨other, value⟩ := head
      simp only [settled] at ih
      by_cases same : other = name <;> simp [settled, Entries.find?, same, ih]

theorem stores_settled {hit : Json} {source : Entries Json} (sourced : HasSource hit source) :
    Stores hit (.object (settled source)) :=
  ⟨source, sourced, (Json.whole_numbers_eq_iff _ _).mp (settled_eq source)⟩

theorem stores_document (hit : Json) : Stores hit (document none hit) := by
  have sourced : HasSource hit _ := (source_eq_iff hit _).mp rfl
  rw [document_eq_stored sourced (by simp)]
  exact stores_settled sourced

theorem substitutes_document (field : String) (hit : Json) :
    ∃ stored, Stores hit stored ∧ Substitutes field hit stored (document (some field) hit) := by
  have sourced : HasSource hit _ := (source_eq_iff hit _).mp rfl
  refine ⟨_, stores_settled sourced, ?_⟩
  by_cases marked : ∃ text, HasFragments hit field text
  · obtain ⟨text, found⟩ := marked
    rw [document_eq_marked sourced found]
    constructor
    · intro other foundAlso
      have same : text = other := by
        rw [← highlight_text_eq_some_iff] at found foundAlso
        exact Option.some.inj (found.symm.trans foundAlso)
      simp [Json.member?, find_settled, Json.wholeNumbers, same]
    · intro plain
      exact absurd found (plain text)
    · intro name other
      simp [Json.member?, find_settled, Entries.find_put_other other]
  · rw [not_exists] at marked
    have plain : ∀ other text, some field = some other → ¬HasFragments hit other text :=
      fun _ text asked => Option.some.inj asked ▸ marked text
    rw [document_eq_stored sourced plain]
    exact ⟨fun text found => absurd found (marked text), fun _ => rfl, fun _ _ => rfl⟩

end Hits

/-! ## Pages -/

namespace PageSummary

/-- How many hits are on the pages before. -/
def start (summary : PageSummary) : Nat :=
  match summary.number with
  | some number => (number.toNat - 1) * summary.size.toNat
  | none => 0

/-- The page of a result is what a body asks for, and it counts what the answer to it says. -/
structure Agrees (summary : PageSummary) (body answer : Json) : Prop where
  size_positive : 0 < summary.size.toNat
  number_positive : ∀ number, summary.number = some number → 0 < number.toNat
  size_asked : body.member? "size" = some (.ofUInt32 summary.size)
  start_asked : ∃ start : UInt64, body.member? "from" = some (.ofUInt64 start) ∧
    start.toNat = summary.start
  total_read : Hits.HasTotal answer summary.total ∨
    summary.total = 0 ∧ ∀ count, ¬Hits.HasTotal answer count
  pages_hold_total : summary.pages.toNat = summary.total.toNat ⌈/⌉ summary.size.toNat

theorem agrees_of_page (page : Page) {body : Json} (answer : Json)
    (size : body.member? "size" = some (.ofUInt32 page.limit))
    (start : body.member? "from" = some (.ofUInt64 (UInt64.ofNatLT page.offset page.offset_lt))) :
    (ofPage (page.withTotal ((Hits.total? answer).getD 0))).Agrees body answer where
  size_positive := page.size.positive
  number_positive := by
    intro number numbered
    obtain ⟨count, -, rfl⟩ := Option.map_eq_some_iff.mp numbered
    exact count.positive
  size_asked := size
  start_asked := by
    refine ⟨_, start, ?_⟩
    rw [UInt64.toNat_ofNatLT]
    unfold PageSummary.start Page.offset
    cases numbered : page.number <;> simp [ofPage, Page.withTotal, numbered, PageCount.toNat]
  total_read := Hits.total_or_zero answer
  pages_hold_total := pages_of_page page _

end PageSummary

/-! ## Requests -/

/-- A body that asks to highlight one field and no other. -/
def Json.Highlights (body : Json) (field : String) : Prop :=
  (body.member? "highlight").bind (Json.member? "fields") = some (.single field .emptyObject)

namespace Request

variable {request : Request} {search : Search}

theorem highlight_field_of_marking {marking : Option Marking}
    (marked : request.marking = .ok marking) :
    request.highlightField = marking.map Marking.field ∧
      ∀ field, request.highlightField = some field → field ≠ "" := by
  rw [Request.marking] at marked
  rw [highlightField]
  cases highlighted : request.highlight with
  | none =>
      simp only [highlighted, Except.ok.injEq] at marked
      simp [← marked]
  | some highlight =>
      cases enabled : highlight.enabled with
      | false =>
          simp only [highlighted, enabled, Bool.false_eq_true, if_false, Except.ok.injEq] at marked
          simp [← marked, Highlight.activeField, enabled]
      | true =>
          cases named : highlight.field with
          | none => simp [highlighted, enabled, named] at marked
          | some field =>
              by_cases empty : field.isEmpty = true
              · simp [highlighted, enabled, named, empty] at marked
              · simp only [highlighted, enabled, named, empty, if_true, Bool.false_eq_true,
                  if_false, Except.ok.injEq] at marked
                have given : field ≠ "" := by simpa using empty
                simp [← marked, Highlight.activeField, enabled, named, given]

theorem page_of_body (compiled : request.compile = .ok search) (answer : Json) {page : Page}
    (active : request.activePage = some page) :
    (PageSummary.ofPage (page.withTotal ((Hits.total? answer).getD 0))).Agrees search.body
      answer := by
  obtain ⟨base, query, marking, -, -, rfl⟩ := (compile_eq_ok request search).mp compiled
  apply PageSummary.agrees_of_page
  · simp [Overlay.body, Json.member?, overlay, active]
  · simp [Overlay.body, Json.member?, overlay, active]

theorem no_page_in_body (structured : request.rawQuery = none)
    (compiled : request.compile = .ok search) (inactive : request.activePage = none) :
    search.body.member? "from" = none ∧ search.body.member? "size" = none := by
  obtain ⟨base, query, marking, based, -, rfl⟩ := (compile_eq_ok request search).mp compiled
  obtain ⟨rfl, -⟩ := base_of_clauses structured based
  simp [Overlay.body, Json.member?, overlay, inactive, Entries.find?]

theorem highlight_of_body (compiled : request.compile = .ok search) {field : String}
    (highlighted : request.highlightField = some field) :
    field ≠ "" ∧ search.body.Highlights field := by
  obtain ⟨base, query, marking, -, marked, rfl⟩ := (compile_eq_ok request search).mp compiled
  obtain ⟨same, named⟩ := highlight_field_of_marking marked
  refine ⟨named field highlighted, ?_⟩
  obtain ⟨marking, rfl, rfl⟩ := Option.map_eq_some_iff.mp (same.symm.trans highlighted)
  simp [Json.Highlights, Overlay.body, Json.member?, overlay, Marking.toJson, Entries.find?]

theorem no_highlight_in_body (structured : request.rawQuery = none)
    (compiled : request.compile = .ok search) (unmarked : request.highlightField = none) :
    search.body.member? "highlight" = none := by
  obtain ⟨base, query, marking, based, marked, rfl⟩ := (compile_eq_ok request search).mp compiled
  obtain ⟨rfl, -⟩ := base_of_clauses structured based
  have none : marking = none := by
    simpa [unmarked] using (highlight_field_of_marking marked).1
  simp [Overlay.body, Json.member?, overlay, none, Entries.find?]

/-- What a request makes of an answer agrees with the body that it was compiled to. The result has a
page exactly when paging is enabled, and it is the page that the body asks for. The result has a
document for each hit that the answer lists, which is the stored one but for the field that the body
asks to highlight. A request of clauses that does without one of the two leaves it out of its body
as well. -/
theorem result_agrees_with_body (compiled : request.compile = .ok search) (answer : Json) :
    let result := Envelope.ofAnswer request answer
    ((result.page.isSome ↔ ∃ page, request.page = some page ∧ page.enabled = true) ∧
      (∀ summary, result.page = some summary → summary.Agrees search.body answer) ∧
      (request.rawQuery = none → result.page = none →
        search.body.member? "from" = none ∧ search.body.member? "size" = none)) ∧
    ∃ hits, Hits.Lists answer hits ∧
      (∀ field, request.highlightField = some field →
        field ≠ "" ∧ search.body.Highlights field ∧
          List.Forall₂ (fun hit document => ∃ stored, Hits.Stores hit stored ∧
            Hits.Substitutes field hit stored document) hits result.data) ∧
      (request.highlightField = none →
        List.Forall₂ Hits.Stores hits result.data ∧
          (request.rawQuery = none → search.body.member? "highlight" = none)) := by
  intro result
  have page : result.page = request.activePage.map fun page =>
      .ofPage (page.withTotal ((Hits.total? answer).getD 0)) := rfl
  have data : result.data = (Hits.list answer).map (Hits.document request.highlightField) := rfl
  refine ⟨⟨Envelope.page_is_some_iff request answer, ?_, ?_⟩,
    Hits.list answer, (Hits.list_eq_iff answer _).mp rfl, ?_, ?_⟩
  · intro summary reported
    rw [page] at reported
    obtain ⟨asked, active, rfl⟩ := Option.map_eq_some_iff.mp reported
    exact page_of_body compiled answer active
  · intro structured absent
    rw [page, Option.map_eq_none_iff] at absent
    exact no_page_in_body structured compiled absent
  · intro field highlighted
    obtain ⟨named, asked⟩ := highlight_of_body compiled highlighted
    refine ⟨named, asked, ?_⟩
    rw [data, highlighted, List.forall₂_map_right_iff]
    exact List.forall₂_same.mpr fun hit _ => Hits.substitutes_document field hit
  · intro unmarked
    refine ⟨?_, fun structured => no_highlight_in_body structured compiled unmarked⟩
    rw [data, unmarked, List.forall₂_map_right_iff]
    exact List.forall₂_same.mpr fun hit _ => Hits.stores_document hit

def thirdPage : Request :=
  { Request.ofClauses "books" ⟨[⟨"title", some (.string "Rust"), .term⟩], [], []⟩ with
    page := some (Page.ofNumbers (some 3) (some 10))
    highlight := some (Highlight.ofField (some "title")) }

def lastHit : Json :=
  .object [("_source", .object [("title", .string "In rust"), ("year", .ofUInt64 2015)]),
    ("highlight", .single "title" (.strings ["In ", "<b>rust</b>"]))]

def lastAnswer : Json :=
  .single "hits" (.object [("total", .single "value" (.ofUInt64 21)), ("hits", .array [lastHit])])

def lastDocument : Json :=
  .object [("title", .string "In <b>rust</b>"), ("year", .ofUInt64 2015)]

theorem third_page_agrees_with_body :
    let result := Envelope.ofAnswer thirdPage lastAnswer
    ∃ search stored, thirdPage.compile = .ok search ∧ result.page = some ⟨some 3, 10, 21, 3⟩ ∧
      (PageSummary.mk (some 3) 10 21 3).Agrees search.body lastAnswer ∧
      search.body.Highlights "title" ∧ result.data = [lastDocument] ∧
      Hits.Stores lastHit stored ∧ Hits.Substitutes "title" lastHit stored lastDocument := by
  intro result
  obtain ⟨search, compiled⟩ : ∃ search, thirdPage.compile = .ok search := ⟨_, rfl⟩
  obtain ⟨⟨-, agrees, -⟩, hits, listed, marked, -⟩ := result_agrees_with_body compiled lastAnswer
  obtain rfl : [lastHit] = hits := (Hits.list_eq_iff lastAnswer hits).mpr listed
  obtain ⟨-, highlights, documents⟩ := marked "title" rfl
  have shown : result.data = [lastDocument] := rfl
  rw [shown, List.forall₂_cons] at documents
  obtain ⟨⟨stored, stores, substitutes⟩, -⟩ := documents
  exact ⟨search, stored, compiled, rfl, agrees _ rfl, highlights, shown, stores, substitutes⟩

end Request

end SearchKit
