import SearchKit.Request.Clause
import SearchKit.Request.Highlight
import SearchKit.Request.Order
import SearchKit.Request.Page

/-!
Search requests: what to look for, where, in which order, which page of it and what to highlight.
A request is either a raw query text or a set of clauses.
-/

namespace SearchKit

set_option autoImplicit false

structure Request where
  rawQuery : Option String
  indices : List String
  types : List String
  value : Option Json
  clauses : Clauses
  order : List Order
  page : Option Page
  highlight : Option Highlight
deriving DecidableEq, Repr

namespace Request

def empty : Request := ⟨none, [], [], none, .none, [], none, none⟩

def ofRaw (query : String) (indices types : List String) : Request :=
  { empty with rawQuery := some query, indices, types }

def ofClauses (index : String) (clauses : Clauses) : Request :=
  { empty with indices := [index], clauses }

def activePage (request : Request) : Option Page :=
  request.page.filter Page.enabled

def highlightField (request : Request) : Option String :=
  request.highlight.bind Highlight.activeField

def toJson (request : Request) : Json :=
  .object <|
    Entries.ofPresent [("query", request.rawQuery.map Json.string)]
      ++ [("indexName", .strings request.indices), ("indexType", .strings request.types)]
      ++ Entries.ofPresent [("value", request.value)]
      ++ request.clauses.members
      ++ (if request.order.isEmpty then []
        else [("order", .array (request.order.map Order.toJson))])
      ++ Entries.ofPresent
        [("page", request.page.map Page.toJson),
          ("highlight", request.highlight.map Highlight.toJson)]

def readMember (request : Request) (member : String × Json) : Except Json.Mismatch Request :=
  match member.1 with
  | "query" => do
      let rawQuery ← Json.Decoder.optional Json.Decoder.string member.2
      return { request with rawQuery }
  | "indexName" => do
      let indices ← Json.Decoder.list Json.Decoder.string member.2
      return { request with indices }
  | "indexType" => do
      let types ← Json.Decoder.list Json.Decoder.string member.2
      return { request with types }
  | "value" => do
      let value ← Json.Decoder.optional Json.Decoder.any member.2
      return { request with value }
  | "order" => do
      let order ← Json.Decoder.list Order.decode member.2
      return { request with order }
  | "page" => do
      let page ← Json.Decoder.optional Page.decode member.2
      return { request with page }
  | "highlight" => do
      let highlight ← Json.Decoder.optional Highlight.decode member.2
      return { request with highlight }
  | _ => .ok request

/-- The groups of clauses are read after all other members. -/
def decode : Json.Decoder Request
  | .object members => do
      let request ← members.foldlM readMember empty
      let clauses ← members.foldlM Clauses.readMember .none
      return { request with clauses }
  | other => .error (.wrongType other.found "struct SearchRequest")

end Request

/-- The text that a value is searched by: a string as it is, nothing for null, else JSON text. -/
def Json.scalarText : Json → String
  | .string text => text
  | .null => ""
  | other => other.text

end SearchKit
