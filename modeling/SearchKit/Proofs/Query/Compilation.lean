import SearchKit.Proofs.Checked
import SearchKit.Proofs.Query.Overlay
import SearchKit.Proofs.Request.Pages
import SearchKit.Query.Compile

/-!
What a compiled search is made of: the base and the query of its request, the highlighting, and the
parts that are laid over the base. Every later fact about compiled searches goes through here.
-/

namespace SearchKit.Request

set_option autoImplicit false

def overlay (request : Request) (query : Option Query) (marking : Option Marking) : Overlay :=
  { start := request.activePage.map fun page => UInt64.ofNatLT page.offset page.offset_lt
    size := request.activePage.map Page.limit
    query
    sort := request.sortKeys
    marking }

/-- A compiled search comes from a base, a query and a marking that were each accepted. -/
theorem compile_eq_ok (request : Request) (search : Search) :
    request.compile = .ok search ↔
      ∃ base query marking,
        request.baseAndQuery = .ok (base, query) ∧ request.marking = .ok marking ∧
          search = ⟨request.indices, request.types, (request.overlay query marking).body base⟩ := by
  have started : Page.start = fun page => UInt64.ofNatLT page.offset page.offset_lt :=
    funext Page.start_eq
  unfold compile
  simp only [Checked.bind_eq_ok, Checked.pure_eq_ok, started]
  constructor
  · rintro ⟨⟨base, query⟩, based, marking, marked, rfl⟩
    exact ⟨base, query, marking, based, marked, rfl⟩
  · rintro ⟨base, query, marking, based, marked, rfl⟩
    exact ⟨(base, query), based, marking, marked, rfl⟩

theorem base_of_clauses {request : Request} (structured : request.rawQuery = none)
    {base : Entries Json} {query : Option Query}
    (based : request.baseAndQuery = .ok (base, query)) :
    base = [] ∧ ∃ combined, query = some combined ∧
      request.clauses.query request.value = .ok combined := by
  simp only [baseAndQuery, structured, Checked.map_eq_ok, Prod.mk.injEq] at based
  obtain ⟨combined, accepted, rfl, rfl⟩ := based
  exact ⟨rfl, combined, rfl, accepted⟩

theorem base_of_raw {request : Request} {raw : String} (given : request.rawQuery = some raw)
    {base : Entries Json} {query : Option Query} :
    request.baseAndQuery = .ok (base, query) ↔
      Json.ofText raw = .ok (.object base) ∧ query = none := by
  simp only [baseAndQuery, given]
  cases read : Json.ofText raw with
  | error fault => simp
  | ok json => cases json <;> simp [eq_comm]

theorem query_of_compiled {request : Request} {search : Search}
    (structured : request.rawQuery = none) (compiled : request.compile = .ok search) :
    ∃ combined, request.clauses.query request.value = .ok combined ∧
      search.body.member? "query" = some combined.toJson := by
  obtain ⟨base, query, marking, based, marked, rfl⟩ := (compile_eq_ok request search).mp compiled
  obtain ⟨rfl, combined, rfl, accepted⟩ := base_of_clauses structured based
  refine ⟨combined, accepted, ?_⟩
  simp [Overlay.body, Json.member?, overlay]

theorem compile_of_raw {request : Request} {search : Search} {raw : String}
    (given : request.rawQuery = some raw) (compiled : request.compile = .ok search)
    (clauses : Clauses) : ({ request with clauses } : Request).compile = .ok search := by
  obtain ⟨base, query, marking, based, marked, rfl⟩ := (compile_eq_ok request search).mp compiled
  have sameRaw : ({ request with clauses } : Request).rawQuery = some raw := given
  have sameBase := (base_of_raw sameRaw).mpr ((base_of_raw given).mp based)
  exact (compile_eq_ok _ _).mpr ⟨base, query, marking, sameBase, marked, rfl⟩

end SearchKit.Request
