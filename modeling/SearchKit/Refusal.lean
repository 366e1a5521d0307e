import SearchKit.Json.Decoding

/-!
The reasons for which a request is refused before anything is sent to the engine.
-/

namespace SearchKit

set_option autoImplicit false

inductive Refusal where
  | noClauses
  | fieldNameMissing
  | rangeShape (field value : String)
  | rangeBoundMissing (field value : String)
  | highlightFieldMissing
  | rawQueryNotJson (fault : Json.TextFault)
  | rawQueryNotObject
  | noRequests
  | unknownDirection (word : String)
  | orderNameMissing
  | mappingWithoutType
  | noDocuments
  | deleteQueryNotJson (fault : Json.TextFault)
deriving DecidableEq, Repr

def Refusal.message : Refusal → String
  | .noClauses => "search field can't be empty"
  | .fieldNameMissing => "field name is required"
  | .rangeShape field value =>
      "range value for " ++ field ++ " must look like lower#upper, got " ++ Text.quote value
  | .rangeBoundMissing field value =>
      "range value for " ++ field ++ " needs both bounds, got " ++ Text.quote value
  | .highlightFieldMissing => "highlight field name is required when enabled"
  | .rawQueryNotJson fault => "raw query is not valid JSON: " ++ fault.message
  | .rawQueryNotObject => "raw query must be a JSON object"
  | .noRequests => "search requests can't be empty"
  | .unknownDirection word => "unknown sort order " ++ word
  | .orderNameMissing => "order field name is required"
  | .mappingWithoutType => "index type is required with mappings"
  | .noDocuments => "document list is empty"
  | .deleteQueryNotJson fault => "delete query is not valid JSON: " ++ fault.message

end SearchKit
