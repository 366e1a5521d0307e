import SearchKit.Proofs.Json.RoundTrip
import SearchKit.Proofs.Operations.Searching
import SearchKit.Proofs.Query.Compilation
import SearchKit.Proofs.Result.Totals

/-!
Reading a search page by page. On an engine that holds a list of hits and gives out the stretch that
a body asks for, the pages of one size together are the hits in their order, each of them once, and
every page tells how many hits and pages there are.
-/

namespace SearchKit

set_option autoImplicit false

/-- A list of hits, few enough to be counted in 64 bits. -/
structure HitStore where
  hits : List Json
  countable : hits.length < 2 ^ 64

namespace HitStore

def total (store : HitStore) : UInt64 := UInt64.ofNatLT store.hits.length store.countable

/-- What the engine sends back for a stretch of the hits: the count of all and the stretch. -/
def window (store : HitStore) (start size : Nat) : Json :=
  .single "hits" (.object [("total", .ofUInt64 store.total),
    ("hits", .array ((store.hits.drop start).take size))])

/-- A client that gets the stretch for every body that names where it starts and how long it is. -/
def ServedBy {σ : Type} (store : HitStore) (client : Client σ) : Prop :=
  ∀ state search (start size : UInt64),
    search.body.member? "from" = some (.ofUInt64 start) →
    search.body.member? "size" = some (.ofUInt64 size) →
    ∃ answer, (client.execute state (.search search)).outcome = .ok answer ∧
      answer.succeeded = true ∧ answer.json = store.window start.toNat size.toNat

@[simp] theorem total_of_window (store : HitStore) (start size : Nat) :
    Hits.total? (store.window start size) = some store.total := by
  simp [Hits.total?, window, Json.single, Json.member?, Entries.find?, Json.ofUInt64,
    Json.asUnsigned?]

@[simp] theorem documents_of_window (store : HitStore) (highlighted : Option String)
    (start size : Nat) :
    Hits.documents highlighted (store.window start size) =
      ((store.hits.drop start).take size).map (Hits.document highlighted) := by
  simp [Hits.documents, Hits.list, window, Json.single, Json.member?, Entries.find?,
    Json.asArray?]

end HitStore

namespace Request

def onPage (request : Request) (number size : Int) : Request :=
  { request with page := some (Page.ofNumbers number size) }

/-- Whether a request compiles does not depend on its page, which only sets where the result starts
and how long it is, over whatever the base says of that. -/
theorem compile_on_page {request : Request} {search : Search}
    (compiled : request.compile = .ok search) (number size : Int) :
    ∃ paged, (request.onPage number size).compile = .ok paged ∧
      paged.body.member? "from" = some (.ofUInt64 (UInt64.ofNatLT
        (Page.ofNumbers number size).offset (Page.ofNumbers number size).offset_lt)) ∧
      paged.body.member? "size" = some (.ofUInt32 (Page.ofNumbers number size).limit) := by
  obtain ⟨base, query, marking, based, marked, -⟩ := (compile_eq_ok request search).mp compiled
  refine ⟨_, (compile_eq_ok _ _).mpr ⟨base, query, marking, based, marked, rfl⟩, ?_, ?_⟩
  · simp [Overlay.body, Json.member?, overlay, activePage, onPage, Page.ofNumbers]
  · simp [Overlay.body, Json.member?, overlay, activePage, onPage, Page.ofNumbers]

end Request

structure PageSummary.Reports (summary : PageSummary) (number size total : Nat) : Prop where
  ownNumber : summary.number.map UInt32.toNat = some number
  ownSize : summary.size.toNat = size
  allHits : summary.total.toNat = total
  allPages : summary.pages.toNat = total ⌈/⌉ size

theorem PageSummary.reports_of_page (page : Page) {numberCount : PageCount}
    (numbered : page.number = some numberCount) (total : UInt64) :
    (PageSummary.ofPage (page.withTotal total)).Reports numberCount.toNat page.size.toNat
      total.toNat where
  ownNumber := by simp [ofPage, Page.withTotal, numbered, PageCount.toNat]
  ownSize := rfl
  allHits := rfl
  allPages := pages_of_page page total

namespace HitStore

open Operation

variable {σ : Type}

theorem search_on_page {store : HitStore} {client : Client σ} (served : store.ServedBy client)
    {request : Request} {search : Search} (compiled : request.compile = .ok search)
    {number size : Nat} (first : 1 ≤ number) (last : number < 2 ^ 32) (positive : 1 ≤ size)
    (bounded : size < 2 ^ 32) (state : σ) :
    ∃ found summary,
      resultOf client (searchRequest (request.onPage number size)) state = .ok found ∧
      found.data = ((store.hits.drop ((number - 1) * size)).take size).map
        (Hits.document request.highlightField) ∧
      found.page = some summary ∧ summary.Reports number size store.hits.length := by
  obtain ⟨numberCount, sizeCount, page, numberEq, sizeEq⟩ :=
    Page.of_numbers_of_bounds first last positive bounded
  obtain ⟨paged, pagedCompiled, startSet, sizeSet⟩ :=
    Request.compile_on_page compiled number size
  rw [Json.of_uint32_eq_of_uint64] at sizeSet
  obtain ⟨answer, outcome, succeeded, json⟩ := served state paged _ _ startSet sizeSet
  have window : answer.json = store.window ((number - 1) * size) size := by
    rw [json]
    simp only [page, UInt64.toNat_ofNatLT, UInt32.toNat_toUInt64, Page.offset, Page.limit]
    rw [numberEq, ← PageCount.toNat, sizeEq]
  have result : resultOf client (searchRequest (request.onPage number size)) state =
      .ok (Envelope.ofAnswer (request.onPage number size)
        (store.window ((number - 1) * size) size)) := by
    rw [result_of_search_request client pagedCompiled, outcome]
    simp [judge, succeeded, Except.mapError, Except.map, window]
  have reports := PageSummary.reports_of_page ⟨true, some numberCount, sizeCount, none⟩ rfl
    store.total
  rw [numberEq, sizeEq] at reports
  refine ⟨_, _, result, ?_, ?_, reports⟩
  · simp [Envelope.ofAnswer, Request.highlightField, Request.onPage]
  · simp [Envelope.ofAnswer, Envelope.pageOf, Request.activePage, Request.onPage, page]

/-- With one page size, the pages from the first to the last give every hit once and in order, as
far as page numbers of 32 bits reach. Every page reports its own number and size and how many hits
and pages there are, and the pages after the last are empty. -/
theorem paging_gives_every_hit_once (store : HitStore) (client : Client σ)
    (served : store.ServedBy client) (request : Request) (search : Search)
    (compiled : request.compile = .ok search) (size : Nat) (positive : 1 ≤ size)
    (bounded : size < 2 ^ 32) (states : Nat → σ) :
    ∃ found : Nat → Envelope,
      (∀ number : Nat, 1 ≤ number → number < 2 ^ 32 →
        resultOf client (searchRequest (request.onPage number size)) (states number) =
            .ok (found number) ∧
          ∃ summary, (found number).page = some summary ∧
            summary.Reports number size store.hits.length) ∧
      (List.range' 1 (min (store.hits.length ⌈/⌉ size) (2 ^ 32 - 1))).flatMap
          (fun number => (found number).data) =
        Hits.documents request.highlightField
          (store.window 0 (min store.hits.length ((2 ^ 32 - 1) * size))) ∧
      ∀ number, store.hits.length ⌈/⌉ size < number → number < 2 ^ 32 →
        (found number).data = [] := by
  have pages (number : Nat) : ∃ found : Envelope, 1 ≤ number ∧ number < 2 ^ 32 →
      resultOf client (searchRequest (request.onPage number size)) (states number) = .ok found ∧
      found.data = ((store.hits.drop ((number - 1) * size)).take size).map
        (Hits.document request.highlightField) ∧
      ∃ summary, found.page = some summary ∧
        summary.Reports number size store.hits.length := by
    by_cases inRange : 1 ≤ number ∧ number < 2 ^ 32
    · obtain ⟨found, summary, result, data, page, reports⟩ :=
        search_on_page served compiled inRange.1 inRange.2 positive bounded (states number)
      exact ⟨found, fun _ => ⟨result, data, summary, page, reports⟩⟩
    · exact ⟨Envelope.empty, fun within => absurd within inRange⟩
  choose found inPage using pages
  have reach : ∀ count, store.hits.length ⌈/⌉ size ≤ count ↔ store.hits.length ≤ size * count :=
    fun count => ceilDiv_le_iff_le_mul positive
  refine ⟨found, ?_, ?_, ?_⟩
  · intro number first last
    obtain ⟨result, -, reported⟩ := inPage number ⟨first, last⟩
    exact ⟨result, reported⟩
  · have stretches : (List.range' 1 (min (store.hits.length ⌈/⌉ size) (2 ^ 32 - 1))).flatMap
          (fun number => (found number).data) =
        (List.range' 1 (min (store.hits.length ⌈/⌉ size) (2 ^ 32 - 1))).flatMap fun number =>
          ((store.hits.drop ((number - 1) * size)).take size).map
            (Hits.document request.highlightField) := by
      apply List.flatMap_congr
      intro number member
      have inRange : 1 ≤ number ∧ number < 2 ^ 32 := by
        rw [List.mem_range'_1] at member
        omega
      exact (inPage number inRange).2.1
    -- The last page of all either holds the last hit or is the last one that 32 bits can name.
    rw [stretches, ← List.map_flatMap, take_pages, documents_of_window, List.drop_zero]
    have enough := (reach (store.hits.length ⌈/⌉ size)).mp le_rfl
    rw [Nat.mul_comm] at enough
    congr 1
    rw [List.take_eq_take_iff, ← Nat.mul_min_mul_right]
    omega
  · intro number beyond last
    have behind := (reach (number - 1)).mp (by omega)
    rw [Nat.mul_comm] at behind
    rw [(inPage number ⟨by omega, last⟩).2.1, List.drop_eq_nil_of_le behind, List.take_nil,
      List.map_nil]

def client (store : HitStore) : Client Unit where
  execute _ action :=
    match action with
    | .search search =>
        match (search.body.member? "from").bind Json.asUnsigned?,
          (search.body.member? "size").bind Json.asUnsigned? with
        | some start, some size =>
            ⟨.ok (Answer.success (store.window start.toNat size.toNat)), [], ()⟩
        | _, _ => ⟨.error .clientClosed, [], ()⟩
    | _ => ⟨.error .clientClosed, [], ()⟩

theorem served_by_client (store : HitStore) : store.ServedBy store.client := by
  intro state search start size startSet sizeSet
  refine ⟨Answer.success (store.window start.toNat size.toNat), ?_, rfl, rfl⟩
  simp [client, startSet, sizeSet]

def threeHits : HitStore := ⟨[.null, .bool true, .string "third"], by decide⟩

def otherBase : Entries Json := [("size", .ofUInt64 9), ("from", .ofUInt64 5)]

def otherStretch : Request := Request.ofRaw (Json.object otherBase).text [] []

theorem paging_gives_three_hits_once :
    ∃ first second : Envelope,
      resultOf threeHits.client (searchRequest (otherStretch.onPage 1 2)) () = .ok first ∧
      resultOf threeHits.client (searchRequest (otherStretch.onPage 2 2)) () = .ok second ∧
      first.data ++ second.data = Hits.documents none (threeHits.window 0 3) := by
  have flat : Json.Plain 1 (.object otherBase) :=
    .object (by decide) (by simp [otherBase, Json.Plain.of_uint64])
  have read : Json.ofText (Json.object otherBase).text = .ok (.object otherBase) :=
    Json.of_text_of_text (flat.mono (by decide))
  have compiled : otherStretch.compile = .ok ⟨[], [], .object otherBase⟩ :=
    (Request.compile_eq_ok _ _).mpr
      ⟨otherBase, none, none, (Request.base_of_raw rfl).mpr ⟨read, rfl⟩, rfl, rfl⟩
  obtain ⟨found, pages, whole, -⟩ := paging_gives_every_hit_once threeHits threeHits.client
    threeHits.served_by_client otherStretch _ compiled 2 (by decide) (by decide) fun _ => ()
  refine ⟨found 1, found 2, (pages 1 (by decide) (by decide)).1,
    (pages 2 (by decide) (by decide)).1, ?_⟩
  have last : threeHits.hits.length ⌈/⌉ 2 = 2 := by
    rw [Nat.ceilDiv_eq_add_pred_div]
    decide
  have reach : min threeHits.hits.length ((2 ^ 32 - 1) * 2) = 3 := by decide
  have unmarked : otherStretch.highlightField = none := rfl
  rw [last, reach, unmarked] at whole
  simpa [List.range'] using whole

end HitStore

end SearchKit
