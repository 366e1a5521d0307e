import SearchKit.Query.Compile

/-!
What the engine can be asked to do, and how each action is sent: its method, its path as a list of
segments, and its body. Bodies of several JSON values have one value a line.
-/

namespace SearchKit

set_option autoImplicit false

inductive Method where
  | get
  | head
  | post
  | put
  | delete
deriving DecidableEq, Repr

def Method.name : Method → String
  | .get => "GET"
  | .head => "HEAD"
  | .post => "POST"
  | .put => "PUT"
  | .delete => "DELETE"

structure DocumentRef where
  index : String
  docType : String
  id : String
deriving DecidableEq, Repr

def DocumentRef.toJson (document : DocumentRef) : Json :=
  .object [("_index", .string document.index), ("_type", .string document.docType),
    ("_id", .string document.id)]

inductive BulkItem where
  | index (target : DocumentRef) (source : Json)
  | update (target : DocumentRef) (payload : Json)
  | delete (target : DocumentRef)
deriving DecidableEq, Repr

/-- The lines of an item: what to do, and with what unless it is a deletion. -/
def BulkItem.lines : BulkItem → List Json
  | .index target source => [.single "index" target.toJson, source]
  | .update target payload => [.single "update" target.toJson, payload]
  | .delete target => [.single "delete" target.toJson]

namespace Search

/-- The scope of a search in a path: the indices, the types, and a stand-in for all indices when
there are types only. -/
def scopeSegments (search : Search) : List String :=
  if search.indices.isEmpty then
    if search.types.isEmpty then [] else ["_all", Text.join "," search.types]
  else
    Text.join "," search.indices ::
      (if search.types.isEmpty then [] else [Text.join "," search.types])

def header (search : Search) : Json :=
  .object (Entries.ofPresent
    [("index", if search.indices.isEmpty then none else some (.strings search.indices)),
      ("type", if search.types.isEmpty then none else some (.strings search.types))])

def batchLines (search : Search) : List Json := [search.header, search.body]

end Search

inductive Action where
  | search (search : Search)
  | multiSearch (searches : List Search)
  | get (document : DocumentRef)
  | multiGet (documents : List DocumentRef)
  | createIndex (index : String) (settings : Option Json)
  | indexExists (index : String)
  | deleteIndex (index : String)
  | putMapping (index docType : String) (mapping : Json)
  | indexDocument (index docType : String) (id : Option String) (source : Json)
  | bulk (items : List BulkItem)
  | deleteByQuery (index docType : String) (query : Json)
deriving DecidableEq, Repr

namespace Action

def name : Action → String
  | .search _ => "search"
  | .multiSearch _ => "multi search"
  | .get _ => "get"
  | .multiGet _ => "multi get"
  | .createIndex _ _ => "createIndex"
  | .indexExists _ => "existsIndex"
  | .deleteIndex _ => "deleteIndex"
  | .putMapping _ _ _ => "createMapping"
  | .indexDocument _ _ _ _ => "saveDoc"
  | .bulk _ => "bulk"
  | .deleteByQuery _ _ _ => "deleteByQuery"

def method : Action → Method
  | .search _ | .multiSearch _ | .multiGet _ | .bulk _ | .deleteByQuery _ _ _ => .post
  | .get _ => .get
  | .indexExists _ => .head
  | .deleteIndex _ => .delete
  | .createIndex _ _ | .putMapping _ _ _ => .put
  | .indexDocument _ _ (some _) _ => .put
  | .indexDocument _ _ none _ => .post

def segments : Action → List String
  | .search wanted => wanted.scopeSegments ++ ["_search"]
  | .multiSearch _ => ["_msearch"]
  | .get document => [document.index, document.docType, document.id]
  | .multiGet _ => ["_mget"]
  | .createIndex index _ | .indexExists index | .deleteIndex index => [index]
  | .putMapping index docType _ => [index, "_mapping", docType]
  | .indexDocument index docType id _ => [index, docType] ++ id.toList
  | .bulk _ => ["_bulk"]
  | .deleteByQuery index docType _ => [index, docType, "_delete_by_query"]

def uri (action : Action) : String := Text.join "/" action.segments

def isLines : Action → Bool
  | .multiSearch _ | .bulk _ => true
  | _ => false

/-- The text of values, one a line, each line ended. -/
def linesText (values : List Json) : String := Text.join "\n" (values.map Json.text) ++ "\n"

def body : Action → Option String
  | .search wanted => some wanted.body.text
  | .multiSearch searches => some (linesText (searches.flatMap Search.batchLines))
  | .multiGet documents =>
      some (Json.single "docs" (.array (documents.map DocumentRef.toJson))).text
  | .createIndex _ settings => settings.map fun value => (Json.single "settings" value).text
  | .putMapping _ _ mapping => some mapping.text
  | .indexDocument _ _ _ source => some source.text
  | .bulk items => some (linesText (items.flatMap BulkItem.lines))
  | .deleteByQuery _ _ query => some query.text
  | .get _ | .indexExists _ | .deleteIndex _ => none

end Action

end SearchKit
