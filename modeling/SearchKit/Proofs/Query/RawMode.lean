import SearchKit.Proofs.Json.RoundTrip
import SearchKit.Proofs.Query.Nesting

/-!
A compiled body given back as a raw query. Its text is read as the same body, on which the parts of
the request are laid once more at the places where they already stand, so that nothing changes.
-/

namespace SearchKit

set_option autoImplicit false

namespace Overlay

theorem onto_again {overlay again : Overlay} (same : again.entries ⊆ overlay.entries)
    (base : Entries Json) : again.onto (overlay.onto base) = overlay.onto base := by
  rw [onto_eq_put_all again]
  apply Entries.put_all_of_find
  intro entry member
  rw [find_onto, Entries.find_of_mem overlay.entries_distinct (same member), Option.some_or]

theorem entries_without_query (overlay : Overlay) :
    { overlay with query := .none }.entries ⊆ overlay.entries := by
  intro entry member
  rw [entries, Entries.mem_of_present] at member ⊢
  simp only [List.mem_cons, Prod.mk.injEq, Option.map_none, reduceCtorEq, and_false,
    false_or] at member ⊢
  tauto

end Overlay

namespace Request

/-- The same request with a raw query in place of its own one, which no clause changes any more. -/
def withRaw (request : Request) (raw : String) : Request := { request with rawQuery := some raw }

/-- A compiled search stays the same when its body is given back as a raw query, as long as the
body has no floating point number. Clauses never put one there, and the body is then read from its
text as it is. -/
theorem compiled_body_compiles_to_itself (request : Request) (search : Search)
    (compiled : request.compile = .ok search) :
    (request.rawQuery = none → search.body.isFloatFree = true) ∧
      (search.body.isFloatFree = true →
        Json.ofText search.body.text = .ok search.body ∧
          (request.withRaw search.body.text).compile = .ok search) := by
  refine ⟨fun structured => float_free_of_clauses structured compiled, fun floatFree => ?_⟩
  have read : Json.ofText search.body.text = .ok search.body :=
    Json.of_text_of_text ⟨fits_of_compiled compiled, floatFree⟩
  refine ⟨read, ?_⟩
  obtain ⟨base, query, marking, -, marked, rfl⟩ := (compile_eq_ok request search).mp compiled
  -- The query is part of the base now, so what is laid on it again has none.
  have rebased : (request.withRaw _).baseAndQuery =
      .ok ((request.overlay query marking).onto base, none) := (base_of_raw rfl).mpr ⟨read, rfl⟩
  have unchanged : ((request.overlay query marking).onto base) =
      (request.overlay none marking).onto ((request.overlay query marking).onto base) :=
    (Overlay.onto_again (request.overlay query marking).entries_without_query base).symm
  refine (compile_eq_ok _ _).mpr ⟨_, none, marking, rebased, marked, ?_⟩
  exact congrArg
    (fun members => Search.mk request.indices request.types (.object members)) unchanged

def oddNames : Request :=
  { Request.ofClauses "books" ⟨[⟨"a\"b\\", some (.string "\x01Ä\n"), .term⟩], [], []⟩ with
    order := [⟨"tag\t", .descending⟩]
    page := some (Page.ofNumbers (some 3) (some 10))
    highlight := some ⟨true, "<em class=\"ö\">", "</em>", some "\x7f/"⟩ }

theorem odd_names_compile_to_themselves :
    ∃ search, oddNames.compile = .ok search ∧
      (oddNames.withRaw search.body.text).compile = .ok search := by
  obtain ⟨search, compiled⟩ : ∃ search, oddNames.compile = .ok search := ⟨_, rfl⟩
  obtain ⟨plain, again⟩ := compiled_body_compiles_to_itself oddNames search compiled
  exact ⟨search, compiled, (again (plain rfl)).2⟩

end Request

end SearchKit
