import SearchKit.Query.Body
import SearchKit.Request.Basic
import SearchKit.Text.Basic
import SearchKit.Text.LowerCase

/-!
From requests to searches: a search is the scope of a request with the body that the engine
understands.
-/

namespace SearchKit

set_option autoImplicit false

structure Search where
  indices : List String
  types : List String
  body : Json
deriving DecidableEq, Repr

namespace Clause

/-- The text that a clause looks for: its own value, else that of the request, else nothing. -/
def sought (clause : Clause) (fallback : Option Json) : String :=
  ((clause.value.or fallback).map Json.scalarText).getD ""

def fieldNames (names : String) : List String :=
  ((Text.split ',' names).map Text.trim).filter fun name => !name.isEmpty

/-- There is a comma, and it is not the first character. -/
def namesSeveral (names : String) : Bool :=
  match names.toList with
  | [] => false
  | first :: rest => first != ',' && rest.contains ','

/-- The first two parts between hash signs are the bounds, and both must be there. -/
def rangeQuery (field value : String) : Except Refusal Query :=
  match Text.split '#' value with
  | lower :: upper :: _ =>
      if lower.isEmpty || upper.isEmpty then .error (.rangeBoundMissing field value)
      else .ok (.range field lower upper)
  | _ => .error (.rangeShape field value)

/-- The query of a clause. A multi-field clause with only one name has none. -/
def query? (clause : Clause) (fallback : Option Json) : Except Refusal (Option Query) :=
  let exact := clause.sought fallback
  let lowered := Text.lower exact
  if clause.field.isEmpty && clause.mode != .everything then .error .fieldNameMissing
  else
    match clause.mode with
    | .term => .ok (some (.term clause.field lowered))
    | .leading => .ok (some (.leading clause.field lowered))
    | .queryString => .ok (some (.queryString clause.field lowered))
    | .words => .ok (some (.words clause.field lowered))
    | .phrase => .ok (some (.phrase clause.field lowered))
    | .multiField =>
        .ok (if namesSeveral clause.field then
          some (.multiField (fieldNames clause.field) lowered) else none)
    | .wildcard => .ok (some (.wildcard clause.field lowered))
    | .regexp => .ok (some (.regexp clause.field exact))
    | .range => (rangeQuery clause.field lowered).map some
    | .everything => .ok (some .everything)

end Clause

namespace Clauses

/-- The queries of all clauses with their groups, up to the first clause that is refused. -/
def queries (fallback : Option Json) : List (Group × Clause) → Except Refusal (List (Group × Query))
  | [] => .ok []
  | (group, clause) :: rest => do
      let query ← clause.query? fallback
      let further ← queries fallback rest
      return (query.map (group, ·)).toList ++ further

/-- One clause that matches everything makes all others pointless. -/
def query (clauses : Clauses) (fallback : Option Json) : Except Refusal Query :=
  if clauses.isEmpty then .error .noClauses
  else if clauses.hasEverything then .ok (.combined [.everything] [] [])
  else (queries fallback clauses.all).map Query.ofGroups

end Clauses

namespace Request

def baseAndQuery (request : Request) : Except Refusal (Entries Json × Option Query) :=
  match request.rawQuery with
  | some raw =>
      match Json.ofText raw with
      | .error fault => .error (.rawQueryNotJson fault)
      | .ok (.object members) => .ok (members, none)
      | .ok _ => .error .rawQueryNotObject
  | none => (request.clauses.query request.value).map fun query => ([], some query)

/-- Highlighting needs a field once it is enabled. -/
def marking (request : Request) : Except Refusal (Option Marking) :=
  match request.highlight with
  | none => .ok none
  | some highlight =>
      if highlight.enabled then
        match highlight.field with
        | none => .error .highlightFieldMissing
        | some field =>
            if field.isEmpty then .error .highlightFieldMissing
            else .ok (some ⟨field, highlight.preTag, highlight.postTag⟩)
      else .ok none

/-- The sort keys, of which those without a name are left out. -/
def sortKeys (request : Request) : List Order :=
  request.order.filter fun order => !order.name.isEmpty

def compile (request : Request) : Except Refusal Search := do
  let (base, query) ← request.baseAndQuery
  let marking ← request.marking
  let overlay : Overlay :=
    { start := request.activePage.map Page.start
      size := request.activePage.map Page.limit
      query
      sort := request.sortKeys
      marking }
  return ⟨request.indices, request.types, overlay.body base⟩

/-- The searches of a batch, or the refusal of the first request that is refused. -/
def compileAll (requests : List Request) : Except Refusal (List Search) := requests.mapM compile

end Request

end SearchKit
