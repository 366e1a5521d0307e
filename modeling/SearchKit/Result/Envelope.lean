import SearchKit.Request.Basic
import SearchKit.Result.Hits

/-!
The envelope that results are given out in: the documents, the page they are on when paging was
asked for, and the documents of further searches of a batch.
-/

namespace SearchKit

set_option autoImplicit false

/-- The page of a result, with the count of all hits and of the pages that hold them. -/
structure PageSummary where
  number : Option UInt32
  size : UInt32
  total : UInt64
  pages : UInt64
deriving DecidableEq, Repr

namespace PageSummary

def ofPage (page : Page) : PageSummary :=
  ⟨page.number.map PageCount.word, page.size.word, page.total.getD 0, page.totalPages.getD 0⟩

def toJson (summary : PageSummary) : Json :=
  .object <|
    Entries.ofPresent [("pageNum", summary.number.map Json.ofUInt32)]
      ++ [("pageSize", .ofUInt32 summary.size), ("totalNum", .ofUInt64 summary.total),
        ("totalPage", .ofUInt64 summary.pages)]

structure Draft where
  number : Option UInt32
  size : Option UInt32
  total : Option UInt64
  pages : Option UInt64

def Draft.read (draft : Draft) (member : String × Json) : Except Json.Mismatch Draft :=
  match member.1 with
  | "pageNum" => do
      let number ← Json.Decoder.optional Json.Decoder.unsigned32 member.2
      return { draft with number }
  | "pageSize" => do
      let size ← Json.Decoder.unsigned32 member.2
      return { draft with size := some size }
  | "totalNum" => do
      let total ← Json.Decoder.unsigned64 member.2
      return { draft with total := some total }
  | "totalPage" => do
      let pages ← Json.Decoder.unsigned64 member.2
      return { draft with pages := some pages }
  | _ => .ok draft

def decode : Json.Decoder PageSummary
  | .object members => do
      let draft ← members.foldlM Draft.read ⟨none, none, none, none⟩
      let size ← Json.Decoder.required "pageSize" draft.size
      let total ← Json.Decoder.required "totalNum" draft.total
      let pages ← Json.Decoder.required "totalPage" draft.pages
      return ⟨draft.number, size, total, pages⟩
  | .array items => do
      let expected := "struct PageOut with 4 elements"
      let number ← Json.Decoder.requiredElement items 0
        (Json.Decoder.optional Json.Decoder.unsigned32) expected
      let size ← Json.Decoder.requiredElement items 1 Json.Decoder.unsigned32 expected
      let total ← Json.Decoder.requiredElement items 2 Json.Decoder.unsigned64 expected
      let pages ← Json.Decoder.requiredElement items 3 Json.Decoder.unsigned64 expected
      Json.Decoder.noFurther items 4
      return ⟨number, size, total, pages⟩
  | other => .error (.wrongType other.found "struct PageOut")

end PageSummary

structure Envelope where
  data : List Json
  page : Option PageSummary
  additional : Option (List Json)
deriving DecidableEq, Repr

namespace Envelope

def empty : Envelope := ⟨[], none, none⟩

def withPage (envelope : Envelope) (page : PageSummary) : Envelope :=
  { envelope with page := some page }

def pushAdditional (envelope : Envelope) (documents : List Json) : Envelope :=
  { envelope with additional := some (envelope.additional.getD [] ++ documents) }

def toJson (envelope : Envelope) : Json :=
  .object <|
    [("data", .array envelope.data)]
      ++ Entries.ofPresent
        [("page", envelope.page.map PageSummary.toJson),
          ("additionalData", envelope.additional.map Json.array)]

structure Draft where
  data : Option (List Json)
  page : Option PageSummary
  additional : Option (List Json)

def Draft.read (draft : Draft) (member : String × Json) : Except Json.Mismatch Draft :=
  match member.1 with
  | "data" => do
      let data ← Json.Decoder.list Json.Decoder.any member.2
      return { draft with data := some data }
  | "page" => do
      let page ← Json.Decoder.optional PageSummary.decode member.2
      return { draft with page }
  | "additionalData" => do
      let additional ← Json.Decoder.optional (Json.Decoder.list Json.Decoder.any) member.2
      return { draft with additional }
  | _ => .ok draft

def decode : Json.Decoder Envelope
  | .object members => do
      let draft ← members.foldlM Draft.read ⟨none, none, none⟩
      let data ← Json.Decoder.required "data" draft.data
      return ⟨data, draft.page, draft.additional⟩
  | .array items => do
      let data ← Json.Decoder.requiredElement items 0 (Json.Decoder.list Json.Decoder.any)
        "struct CanonicalResult with 3 elements"
      let page ← Json.Decoder.element items 1 (Json.Decoder.optional PageSummary.decode) none
      let additional ← Json.Decoder.element items 2
        (Json.Decoder.optional (Json.Decoder.list Json.Decoder.any)) none
      Json.Decoder.noFurther items 3
      return ⟨data, page, additional⟩
  | other => .error (.wrongType other.found "struct CanonicalResult")

/-- The page of a request with the count of hits that an answer gives, zero when it gives none. -/
def pageOf (request : Request) (json : Json) : Option PageSummary :=
  request.activePage.map fun page => .ofPage (page.withTotal ((Hits.total? json).getD 0))

def ofAnswer (request : Request) (json : Json) : Envelope :=
  ⟨Hits.documents request.highlightField json, pageOf request json, none⟩

/-- The first pair gives the documents and the page, each further pair additional documents. -/
def ofPairs : List (Json × Request) → Envelope
  | [] => empty
  | (json, request) :: rest =>
      rest.foldl
        (fun envelope pair => envelope.pushAdditional (Hits.documents pair.2.highlightField pair.1))
        (ofAnswer request json)

def ofAnswers (answers : List Json) (requests : List Request) : Envelope :=
  ofPairs (answers.zip requests)

end Envelope

inductive Status where
  | acknowledged (operation : String) (accepted : Bool)
  | failed (code message : String)
deriving DecidableEq, Repr

def Status.toJson : Status → Json
  | .acknowledged operation accepted =>
      .object [("ok", .bool accepted), ("operation", .string operation)]
  | .failed code message =>
      .object [("ok", .bool false),
        ("error", .object [("code", .string code), ("message", .string message)])]

end SearchKit
