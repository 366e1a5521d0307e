import SearchKit.Proofs.Json.RoundTrip
import SearchKit.Proofs.Request.RoundTrip
import SearchKit.Proofs.Result.Totals

/-!
Pages however they come about: from a number and a size, by default or from JSON, with totals set
and written and read again any number of times. The number and the size are those that were asked
for, brought within 32 bits; where the page starts and how many pages there are is exact.
-/

namespace SearchKit

set_option autoImplicit false

/-! ## What is asked for -/

namespace Json

def asInteger? : Json → Option Int
  | .number (.integer value _) => some value
  | _ => none

/-- The integer that a record in JSON has for one of its fields, if it has one there. The last
member of the name counts, or the element at the place of the field. -/
def integerOf? (name : String) (place : Nat) : Json → Option Int
  | .object members => (Entries.find? name members.reverse).bind asInteger?
  | .array items => items[place]?.bind asInteger?
  | _ => none

theorem as_integer_of_optional {json : Json} {value : Option Int}
    (read : Decoder.optional Decoder.signed64 json = .ok value) : value = json.asInteger? := by
  cases json with
  | null =>
      injection read with same
      exact same.symm
  | number number =>
      cases number with
      | integer whole inRange =>
          simp only [Decoder.optional, Decoder.signed64, Decoder.integer, Checked.map_eq_ok] at read
          obtain ⟨_, ⟨⟨given, within⟩, made, rfl⟩, rfl⟩ := read
          split at made
          case isTrue =>
            injection made with same
            injection same with same
            exact congrArg some same.symm
          case isFalse => contradiction
      | float _ => contradiction
  | bool _ | string _ | array _ | object _ => contradiction

theorem as_integer_of_element {items : List Json} {place : Nat} {value : Option Int}
    (read : Decoder.element items place (Decoder.optional Decoder.signed64) none = .ok value) :
    value = items[place]?.bind asInteger? := by
  unfold Decoder.element at read
  split at read
  case h_1 item present =>
    rw [present]
    exact as_integer_of_optional read
  case h_2 absent =>
    injection read with same
    rw [absent, ← same]
    rfl

end Json

namespace Page

theorem counts_of_read {draft next : Draft} {member : String × Json}
    (read : draft.read member = .ok next) :
    (next.number = if member.1 = "pageNum" then member.2.asInteger? else draft.number) ∧
      next.size = if member.1 = "pageSize" then member.2.asInteger? else draft.size := by
  unfold Draft.read at read
  split at read
  case h_1 named =>
    obtain ⟨enabled, -, rfl⟩ := (Checked.bind_pure_eq_ok _ _ _).mp read
    simp [named]
  case h_2 named =>
    obtain ⟨number, found, rfl⟩ := (Checked.bind_pure_eq_ok _ _ _).mp read
    simp [named, Json.as_integer_of_optional found]
  case h_3 named =>
    obtain ⟨size, found, rfl⟩ := (Checked.bind_pure_eq_ok _ _ _).mp read
    simp [named, Json.as_integer_of_optional found]
  case h_4 named =>
    obtain ⟨total, -, rfl⟩ := (Checked.bind_pure_eq_ok _ _ _).mp read
    simp [named]
  case h_5 _ notNumber notSize _ =>
    injection read with same
    rw [← same, if_neg notNumber, if_neg notSize]
    exact ⟨rfl, rfl⟩

theorem counts_of_decode {json : Json} {page : Page} (read : decode json = .ok page) :
    page.number = (json.integerOf? "pageNum" 1).bind PageCount.ofInt? ∧
      page.size = sizeOf (json.integerOf? "pageSize" 2) := by
  cases json with
  | object members =>
      obtain ⟨draft, drafted, rfl⟩ := (Checked.bind_pure_eq_ok _ _ _).mp read
      rw [Json.integerOf?, Json.integerOf?,
        ← Json.Decoder.part_of_members (fun read => (counts_of_read read).1) rfl drafted,
        ← Json.Decoder.part_of_members (fun read => (counts_of_read read).2) rfl drafted]
      exact ⟨rfl, rfl⟩
  | array items =>
      obtain ⟨enabled, -, numbered⟩ := (Checked.bind_eq_ok _ _ _).mp read
      obtain ⟨number, numberFound, sized⟩ := (Checked.bind_eq_ok _ _ _).mp numbered
      obtain ⟨size, sizeFound, counted⟩ := (Checked.bind_eq_ok _ _ _).mp sized
      obtain ⟨total, -, ended⟩ := (Checked.bind_eq_ok _ _ _).mp counted
      obtain ⟨-, -, rfl⟩ := (Checked.bind_pure_eq_ok _ _ _).mp ended
      rw [Json.integerOf?, Json.integerOf?,
        ← Json.as_integer_of_element numberFound, ← Json.as_integer_of_element sizeFound]
      exact ⟨rfl, rfl⟩
  | null | bool _ | number _ | string _ => contradiction

theorem plain_to_json (page : Page) : Json.Plain 1 page.toJson := by
  obtain ⟨enabled, number, size, total⟩ := page
  have flag : Json.Plain 0 (.bool enabled) := ⟨Json.fits_bool 0 enabled, rfl⟩
  have numbered :
      Json.Plain 0 ((number.map fun number => Json.ofUInt32 number.word).getD .null) := by
    cases number with
    | none => exact ⟨Json.fits_null 0, rfl⟩
    | some number => exact .of_uint32 0 number.word
  have sized : Json.Plain 0 (.ofUInt32 size.word) := .of_uint32 0 size.word
  apply Json.Plain.object
  · cases total <;> simp [Entries.names, Entries.ofPresent]
  · cases total with
    | none => simp [Entries.ofPresent, flag, numbered, sized]
    | some total => simp [Entries.ofPresent, flag, numbered, sized, Json.Plain.of_uint64]

theorem decode_text (page : Page) : Json.decodeText decode page.toJson.text = .ok page := by
  rw [Json.decodeText, Json.of_text_of_text (page.plain_to_json.mono (by decide))]
  simp only [page.decode_to_json]
  rfl

/-! ## Pages that come about -/

/-- How a page comes about, with the number and the size that it was asked for. -/
inductive Obtained : Option Int → Option Int → Page → Prop where
  | numbered (number size : Option Int) : Obtained number size (.ofNumbers number size)
  | unpaged : Obtained none none .unpaged
  | decoded {json : Json} {page : Page} (read : decode json = .ok page) :
      Obtained (json.integerOf? "pageNum" 1) (json.integerOf? "pageSize" 2) page
  | totalled {number size : Option Int} {page : Page} (before : Obtained number size page)
      (total : UInt64) : Obtained number size (page.withTotal total)
  | reread {number size : Option Int} {page again : Page} (before : Obtained number size page)
      (read : decode page.toJson = .ok again) : Obtained number size again
  | rereadText {number size : Option Int} {page again : Page} (before : Obtained number size page)
      (read : Json.decodeText decode page.toJson.text = .ok again) : Obtained number size again

theorem Obtained.counts {number size : Option Int} {page : Page}
    (obtained : Obtained number size page) :
    page.number = number.bind PageCount.ofInt? ∧ page.size = sizeOf size := by
  -- A total is no count that was asked for, and what is written is read as the same page.
  induction obtained with
  | numbered number size => exact ⟨rfl, rfl⟩
  | unpaged => exact ⟨rfl, rfl⟩
  | decoded read => exact counts_of_decode read
  | totalled _ total ih => exact ih
  | reread _ read ih =>
      rw [decode_to_json] at read
      injection read with same
      exact same ▸ ih
  | rereadText _ read ih =>
      rw [decode_text] at read
      injection read with same
      exact same ▸ ih

/-- A number and a size that are positive are kept, or capped at the greatest of 32 bits. Otherwise
the number is dropped, and the size is the default one. -/
structure Keeps (page : Page) (number size : Option Int) : Prop where
  number_kept : ∀ asked, number = some asked → 0 < asked →
    page.number.map PageCount.toNat = some (min asked.toNat (2 ^ 32 - 1))
  number_dropped : (∀ asked, number = some asked → asked ≤ 0) → page.number = none
  size_kept : ∀ asked, size = some asked → 0 < asked →
    page.size.toNat = min asked.toNat (2 ^ 32 - 1)
  size_replaced : (∀ asked, size = some asked → asked ≤ 0) → page.size.toNat = 20

theorem keeps_of_counts {number size : Option Int} {page : Page}
    (numbered : page.number = number.bind PageCount.ofInt?) (sized : page.size = sizeOf size) :
    page.Keeps number size where
  number_kept := by
    rintro asked rfl positive
    obtain ⟨count, made, capped⟩ := PageCount.of_int_of_pos positive
    rw [numbered, Option.bind_some, made, Option.map_some, capped]
    rfl
  number_dropped := by
    intro nonpos
    rw [numbered, Option.bind_eq_none_iff]
    intro asked given
    exact PageCount.of_int_of_nonpos (nonpos asked given)
  size_kept := by
    rintro asked rfl positive
    obtain ⟨count, made, capped⟩ := PageCount.of_int_of_pos positive
    rw [sized, sizeOf, Option.bind_some, made, Option.getD_some, capped]
    rfl
  size_replaced := by
    intro nonpos
    have none : size.bind PageCount.ofInt? = none := by
      rw [Option.bind_eq_none_iff]
      intro asked given
      exact PageCount.of_int_of_nonpos (nonpos asked given)
    rw [sized, sizeOf, none]
    rfl

/-! ## What is counted -/

structure IsWithinBounds (page : Page) : Prop where
  size : 1 ≤ page.size.toNat ∧ page.size.toNat ≤ 2 ^ 32 - 1
  number : ∀ number, page.number = some number → 1 ≤ number.toNat ∧ number.toNat ≤ 2 ^ 32 - 1

theorem is_within_bounds (page : Page) : page.IsWithinBounds := by
  have bounds (count : PageCount) : 1 ≤ count.toNat ∧ count.toNat ≤ 2 ^ 32 - 1 :=
    ⟨count.toNat_pos, Nat.le_sub_one_of_lt count.toNat_lt⟩
  exact ⟨bounds page.size, fun number _ => bounds number⟩

/-- Neither the difference nor the product leaves its word, and so the start is exact. -/
structure StartsExactly (page : Page) : Prop where
  difference_fits : ∀ number, page.number = some number →
    number.word.toBitVec.usubOverflow 1 = false
  product_fits : ∀ number, page.number = some number →
    (number.word - 1).toUInt64.toBitVec.umulOverflow page.size.word.toUInt64.toBitVec = false
  numbered : ∀ number, page.number = some number →
    (page.start.toNat : Int) = ((number.toNat : Int) - 1) * (page.size.toNat : Int)
  unnumbered : page.number = none → page.start = 0

theorem starts_exactly (page : Page) : page.StartsExactly where
  difference_fits number _ := number.sub_one_fits
  product_fits _ _ := mul_fits _ _
  numbered := by
    intro number given
    have exact : page.start.toNat = (number.toNat - 1) * page.size.toNat := by
      rw [to_nat_start, offset, given]
    rw [exact, Nat.cast_mul, Nat.cast_sub number.toNat_pos, Nat.cast_one]
  unnumbered := by
    intro absent
    rw [start, absent]

/-- The divisor is not zero, and the pages of a page with a total are the least that hold it. The
summary of the page reports them. -/
structure CountsPages (page : Page) : Prop where
  divisor : page.size.word.toUInt64 ≠ 0
  least : ∀ total, page.total = some total → ∃ pages, page.totalPages = some pages ∧
    IsLeast {count : Nat | total.toNat ≤ count * page.size.toNat} pages.toNat ∧
    PageSummary.ofPage page = ⟨page.number.map PageCount.word, page.size.word, total, pages⟩
  uncounted : page.total = none → page.totalPages = none

theorem counts_pages (page : Page) : page.CountsPages where
  divisor := page.size_ne_zero
  least := by
    intro total given
    have counted : page.totalPages = some (page.pages total) := by
      rw [totalPages, given, Option.map_some]
    refine ⟨page.pages total, counted, page.is_least_pages total, ?_⟩
    rw [PageSummary.ofPage, given, counted]
    rfl
  uncounted := by
    intro absent
    rw [totalPages, absent, Option.map_none]

/-- Every page that can come about has the number and the size it was asked for, brought within 32
bits, and is read back as it was written. It starts at the exact product of the pages before it and
their size, and for every total its count of pages is the least that holds it. -/
theorem every_page_counts_exactly {number size : Option Int} {page : Page}
    (obtained : Obtained number size page) :
    page.Keeps number size ∧ page.IsWithinBounds ∧ page.StartsExactly ∧ page.CountsPages ∧
      (∀ total, (page.withTotal total).total = some total ∧ (page.withTotal total).CountsPages) ∧
      decode page.toJson = .ok page ∧ Json.decodeText decode page.toJson.text = .ok page := by
  obtain ⟨numbered, sized⟩ := obtained.counts
  exact ⟨keeps_of_counts numbered sized, page.is_within_bounds, page.starts_exactly,
    page.counts_pages, fun total => ⟨rfl, (page.withTotal total).counts_pages⟩,
    page.decode_to_json, page.decode_text⟩

def hugePage : Json :=
  let greatest := .number (.integer 0x7FFFFFFFFFFFFFFF (by decide))
  .array [.bool true, greatest, greatest]

def greatestCount : PageCount := ⟨0xFFFFFFFF, by decide⟩

def greatestPage : Page := ⟨true, some greatestCount, greatestCount, some 0xFFFFFFFFFFFFFFFF⟩

theorem greatest_page_counts_exactly :
    Obtained (some 0x7FFFFFFFFFFFFFFF) (some 0x7FFFFFFFFFFFFFFF) greatestPage ∧
      greatestPage.Keeps (some 0x7FFFFFFFFFFFFFFF) (some 0x7FFFFFFFFFFFFFFF) ∧
      greatestPage.start = 0xFFFFFFFD00000002 ∧ greatestPage.totalPages = some 0x100000001 ∧
      decode greatestPage.toJson = .ok greatestPage := by
  have decoded : decode hugePage = .ok ⟨true, some greatestCount, greatestCount, none⟩ := rfl
  have obtained : Obtained (some 0x7FFFFFFFFFFFFFFF) (some 0x7FFFFFFFFFFFFFFF) greatestPage :=
    ((Obtained.decoded decoded).totalled 0xFFFFFFFFFFFFFFFF).reread (decode_to_json _)
  obtain ⟨keeps, -, starts, counts, -, back, -⟩ := every_page_counts_exactly obtained
  refine ⟨obtained, keeps, ?_, ?_, back⟩
  · have product : (greatestPage.start.toNat : Int) = (0xFFFFFFFF - 1) * 0xFFFFFFFF :=
      starts.numbered greatestCount rfl
    have shown : (0xFFFFFFFD00000002 : UInt64).toNat = 0xFFFFFFFD00000002 := rfl
    rw [← UInt64.toNat_inj, shown]
    omega
  · obtain ⟨pages, counted, ⟨enough, least⟩, -⟩ := counts.least 0xFFFFFFFFFFFFFFFF rfl
    have holds : 0xFFFFFFFFFFFFFFFF ≤ pages.toNat * 0xFFFFFFFF := enough
    have fewer : pages.toNat ≤ 0x100000001 := least (by decide)
    have shown : (0x100000001 : UInt64).toNat = 0x100000001 := rfl
    rw [counted, Option.some.injEq, ← UInt64.toNat_inj, shown]
    omega

end Page

end SearchKit
