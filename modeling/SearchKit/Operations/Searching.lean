import SearchKit.Engine.Exchange
import SearchKit.Result.Envelope

/-!
Searching and looking documents up.
-/

namespace SearchKit.Operation

set_option autoImplicit false

def searchRequest (request : Request) : Operation Envelope := do
  let wanted ← ofChecked request.compile
  let json ← search wanted
  return Envelope.ofAnswer request json

/-- Several requests as one batch. The first is the primary one, whose page and documents stand in
front. -/
def searchRequests (requests : List Request) : Operation Envelope :=
  match requests with
  | [] => throw (.invalidRequest .noRequests)
  | [request] => searchRequest request
  | _ => do
      let searches ← ofChecked (Request.compileAll requests)
      let answers ← searchAll searches
      return Envelope.ofAnswers answers requests

def searchRaw (query : String) (indices types : List String) (page : Option Page)
    (order : List Order) : Operation Envelope :=
  searchRequest { Request.ofRaw query indices types with page, order }

/-- The decoded documents, or the mismatch of the first that does not decode. -/
def decodeAll {α : Type} (decode : Json.Decoder α) (documents : List Json) : Operation (List α) :=
  match documents.mapM decode with
  | .ok values => pure values
  | .error mismatch => throw (.json (.mismatch mismatch))

def searchDecoded {α : Type} (decode : Json.Decoder α) (request : Request) :
    Operation (List α) := do
  let wanted ← ofChecked request.compile
  let json ← search wanted
  decodeAll decode (Hits.documents request.highlightField json)

def searchCounted {α : Type} (decode : Json.Decoder α) (request : Request) :
    Operation (List α × UInt64) := do
  let wanted ← ofChecked request.compile
  let json ← search wanted
  let values ← decodeAll decode (Hits.documents request.highlightField json)
  return (values, (Hits.total? json).getD 0)

def lookupStarted (index docType id : String) : LogEvent :=
  ⟨.info, "get " ++ index ++ "/" ++ docType ++ "/" ++ id, []⟩

def lookupFinished (id : String) (document : Json) : LogEvent :=
  if document = .emptyObject then
    ⟨.info, "get result: not found document[" ++ id ++ "]", []⟩
  else ⟨.info, "get result", [("id", .text id)]⟩

/-- The source of a document; the empty object when it is missing or the engine refuses. -/
def get (index docType id : String) : Operation Json := do
  log (lookupStarted index docType id)
  match ← execute (.get ⟨index, docType, id⟩) with
  | .error failure => throw (.operationFailed "get" failure.message)
  | .ok answer => do
      let document := answer.foundDocument
      log (lookupFinished id document)
      return document

def multiLookupStarted (index docType : String) (ids : List String) : LogEvent :=
  ⟨.info, "multi get " ++ index ++ "/" ++ docType ++ "/" ++ Text.quoteList ids, []⟩

def multiLookupRejected (answer : Answer) : LogEvent :=
  ⟨.warning, "multi get rejected",
    [("status", .count answer.status.toNat), ("error", .text (answer.errorMessage.getD ""))]⟩

def multiLookupFinished (requested found : Nat) : LogEvent :=
  ⟨.info, "multi get result", [("requested", .count requested), ("found", .count found)]⟩

/-- The sources of the documents that are found, in the engine's order. No ids need no engine. -/
def multiGet (index docType : String) (ids : List String) : Operation (List Json) := do
  log (multiLookupStarted index docType ids)
  if ids.isEmpty then return []
  else
    match ← execute (.multiGet (ids.map fun id => ⟨index, docType, id⟩)) with
    | .error failure => throw (.operationFailed "multi get" failure.message)
    | .ok answer =>
        if answer.succeeded then do
          let found := Hits.foundDocuments answer.json
          log (multiLookupFinished ids.length found.length)
          return found
        else do
          log (multiLookupRejected answer)
          return []

end SearchKit.Operation
