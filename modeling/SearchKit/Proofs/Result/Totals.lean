import SearchKit.Proofs.Request.Pages
import SearchKit.Result.Envelope

/-!
Counts in results: how many hits an answer says there are, and how many pages hold them.
-/

namespace SearchKit

set_option autoImplicit false

namespace Json

@[simp] theorem as_unsigned_of_uint64 (word : UInt64) :
    (ofUInt64 word).asUnsigned? = some word := by
  simp [ofUInt64, asUnsigned?]

theorem of_uint32_eq_of_uint64 (word : UInt32) : ofUInt32 word = ofUInt64 word.toUInt64 := by
  simp [ofUInt32, ofUInt64]

theorem as_unsigned_eq_some (json : Json) (word : UInt64) :
    json.asUnsigned? = some word ↔ json = .ofUInt64 word := by
  constructor
  · intro read
    cases json with
    | number value =>
        cases value with
        | integer value inRange =>
            simp only [asUnsigned?, Option.dite_none_right_eq_some, Option.some.injEq] at read
            obtain ⟨nonnegative, rfl⟩ := read
            simp [ofUInt64, nonnegative]
        | float value => simp [asUnsigned?] at read
    | null | bool _ | string _ | array _ | object _ => simp [asUnsigned?] at read
  · rintro rfl
    exact as_unsigned_of_uint64 word

end Json

namespace Hits

/-- The answer says how many hits there are, as a number or under `value`. -/
def HasTotal (json : Json) (count : UInt64) : Prop :=
  ∃ total, (json.member? "hits").bind (Json.member? "total") = some total ∧
    (total = .ofUInt64 count ∨ total.member? "value" = some (.ofUInt64 count))

theorem total_eq_some (json : Json) (count : UInt64) :
    total? json = some count ↔ HasTotal json count := by
  unfold total? HasTotal
  cases (json.member? "hits").bind (Json.member? "total") with
  | none => simp
  | some total =>
      cases total with
      | object members =>
          simp [Json.member?, Option.bind_eq_some_iff, Json.as_unsigned_eq_some, Json.ofUInt64]
      | null | bool _ | number _ | string _ | array _ =>
          simp [Json.member?, Json.as_unsigned_eq_some]

theorem total_or_zero (json : Json) :
    HasTotal json ((total? json).getD 0) ∨
      (total? json).getD 0 = 0 ∧ ∀ count, ¬HasTotal json count := by
  cases read : total? json with
  | some total => exact .inl ((total_eq_some json total).mp read)
  | none =>
      refine .inr ⟨rfl, fun count given => ?_⟩
      rw [← total_eq_some, read] at given
      contradiction

end Hits

namespace Envelope

theorem page_is_some_iff (request : Request) (json : Json) :
    (ofAnswer request json).page.isSome = true ↔
      ∃ page, request.page = some page ∧ page.enabled = true := by
  rw [ofAnswer, pageOf, Option.isSome_map, Request.activePage, Option.isSome_filter]
  simp [Option.any_eq_true]

theorem total_of_page {request : Request} {json : Json} {summary : PageSummary}
    (reported : (ofAnswer request json).page = some summary) :
    summary.total = (Hits.total? json).getD 0 := by
  obtain ⟨page, -, rfl⟩ := Option.map_eq_some_iff.mp reported
  simp [PageSummary.ofPage, Page.withTotal]

end Envelope

namespace PageSummary

theorem pages_of_page (page : Page) (total : UInt64) :
    (ofPage (page.withTotal total)).pages.toNat = total.toNat ⌈/⌉ page.size.toNat := by
  rw [← Page.pages_for_eq_ceil_div, ← Page.to_nat_pages]
  rfl

end PageSummary

end SearchKit
