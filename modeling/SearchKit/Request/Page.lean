import SearchKit.Json.Decoding

/-!
Pages of a result. A page number and a page size are positive 32-bit counts by construction: sizes
that are not positive become the default one, page numbers that are not positive are dropped, and
what is too large is capped.
-/

namespace SearchKit

set_option autoImplicit false

/-- A count from 1 to the greatest number of 32 bits. -/
structure PageCount where
  word : UInt32
  positive : 0 < word.toNat
deriving DecidableEq, Repr

namespace PageCount

def toNat (count : PageCount) : Nat := count.word.toNat

theorem toNat_pos (count : PageCount) : 1 ≤ count.toNat := count.positive

theorem toNat_lt (count : PageCount) : count.toNat < 0x100000000 := count.word.toNat_lt

/-- A positive integer, capped at the greatest count. -/
def ofInt? (value : Int) : Option PageCount :=
  if positive : 0 < value then
    some ⟨UInt32.ofNatLT (min value.toNat 0xFFFFFFFF) (by
        have capped : min value.toNat 0xFFFFFFFF ≤ 0xFFFFFFFF := Nat.min_le_right _ _
        have room : 0xFFFFFFFF < UInt32.size := by decide
        omega), by
      simp only [UInt32.toNat_ofNatLT]
      omega⟩
  else none

theorem toNat_ofInt {value : Int} {count : PageCount} (made : ofInt? value = some count) :
    count.toNat = min value.toNat 0xFFFFFFFF := by
  unfold ofInt? at made
  split at made
  · injection made with same
    subst same
    simp [toNat]
  · contradiction

def defaultSize : PageCount := ⟨20, by decide⟩

end PageCount

structure Page where
  enabled : Bool
  number : Option PageCount
  size : PageCount
  total : Option UInt64
deriving DecidableEq, Repr

namespace Page

/-- The page of a request that says nothing about paging. -/
def unpaged : Page := ⟨false, none, .defaultSize, none⟩

def sizeOf (size : Option Int) : PageCount :=
  (size.bind PageCount.ofInt?).getD .defaultSize

def ofNumbers (number size : Option Int) : Page :=
  ⟨true, number.bind PageCount.ofInt?, sizeOf size, none⟩

def withTotal (page : Page) (total : UInt64) : Page := { page with total := some total }

/-- How many hits are on the pages before. -/
def offset (page : Page) : Nat :=
  match page.number with
  | some number => (number.toNat - 1) * page.size.toNat
  | none => 0

/-- The offset in words. The pages before are counted in 32 bits, their hits in 64. -/
def start (page : Page) : UInt64 :=
  match page.number with
  | some number => (number.word - 1).toUInt64 * page.size.word.toUInt64
  | none => 0

def limit (page : Page) : UInt32 := page.size.word

theorem offset_lt (page : Page) : page.offset < 0x10000000000000000 := by
  unfold offset
  split
  · rename_i number _
    have numberBound := number.toNat_lt
    have sizeBound := page.size.toNat_lt
    calc (number.toNat - 1) * page.size.toNat
        ≤ 0x100000000 * page.size.toNat := Nat.mul_le_mul_right _ (by omega)
      _ < 0x100000000 * 0x100000000 := by omega
      _ = 0x10000000000000000 := by decide
  · decide

/-- The least count of pages that hold all hits. -/
def pagesFor (page : Page) (total : UInt64) : Nat :=
  (total.toNat + page.size.toNat - 1) / page.size.toNat

theorem pagesFor_lt (page : Page) (total : UInt64) : page.pagesFor total < 0x10000000000000000 := by
  have totalBound := total.toNat_lt
  have positive := page.size.toNat_pos
  have atMost : page.pagesFor total ≤ total.toNat := by
    unfold pagesFor
    rcases Nat.eq_zero_or_pos total.toNat with none | some
    · have noPage : (total.toNat + page.size.toNat - 1) / page.size.toNat = 0 :=
        Nat.div_eq_of_lt (by omega)
      omega
    · rw [Nat.div_le_iff_le_mul_add_pred positive]
      have larger : total.toNat ≤ page.size.toNat * total.toNat :=
        Nat.le_mul_of_pos_left _ positive
      omega
  omega

/-- The count of pages in words: those that are filled, and one more for the hits that are left. -/
def pages (page : Page) (total : UInt64) : UInt64 :=
  let size := page.size.word.toUInt64
  if total % size = 0 then total / size else total / size + 1

def totalPages (page : Page) : Option UInt64 := page.total.map page.pages

def toJson (page : Page) : Json :=
  .object <|
    [("enable", .bool page.enabled),
      ("pageNum", (page.number.map fun number => Json.ofUInt32 number.word).getD .null),
      ("pageSize", Json.ofUInt32 page.size.word)]
      ++ Entries.ofPresent [("totalNum", page.total.map Json.ofUInt64)]

structure Draft where
  enabled : Bool
  number : Option Int
  size : Option Int
  total : Option UInt64

def Draft.toPage (draft : Draft) : Page :=
  ⟨draft.enabled, draft.number.bind PageCount.ofInt?, sizeOf draft.size, draft.total⟩

def Draft.empty : Draft := ⟨false, none, none, none⟩

def Draft.read (draft : Draft) (member : String × Json) : Except Json.Mismatch Draft :=
  match member.1 with
  | "enable" => do
      let enabled ← Json.Decoder.bool member.2
      return { draft with enabled }
  | "pageNum" => do
      let number ← Json.Decoder.optional Json.Decoder.signed64 member.2
      return { draft with number }
  | "pageSize" => do
      let size ← Json.Decoder.optional Json.Decoder.signed64 member.2
      return { draft with size }
  | "totalNum" => do
      let total ← Json.Decoder.optional Json.Decoder.unsigned64 member.2
      return { draft with total }
  | _ => .ok draft

def decode : Json.Decoder Page
  | .object members => do
      let draft ← members.foldlM Draft.read .empty
      return draft.toPage
  | .array items => do
      let enabled ← Json.Decoder.element items 0 Json.Decoder.bool false
      let number ← Json.Decoder.element items 1 (Json.Decoder.optional Json.Decoder.signed64) none
      let size ← Json.Decoder.element items 2 (Json.Decoder.optional Json.Decoder.signed64) none
      let total ← Json.Decoder.element items 3 (Json.Decoder.optional Json.Decoder.unsigned64) none
      Json.Decoder.noFurther items 4
      return (Draft.mk enabled number size total).toPage
  | other => .error (.wrongType other.found "struct PageRepr")

end Page

end SearchKit
