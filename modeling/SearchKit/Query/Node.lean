import SearchKit.Request.Clause

/-!
Queries as the engine knows them, and their JSON form. Queries nest through combinations of three
groups.
-/

namespace SearchKit

set_option autoImplicit false

inductive Query where
  | everything
  | term (field value : String)
  | leading (field value : String)
  | queryString (defaultField query : String)
  | words (field query : String)
  | phrase (field query : String)
  | multiField (fields : List String) (query : String)
  | wildcard (field value : String)
  | regexp (field value : String)
  | range (field above below : String)
  | combined (must should mustNot : List Query)
deriving Inhabited, Repr

namespace Query

def onField (kind field : String) (body : Entries Json) : Json :=
  .single kind (.single field (.object body))

def presentGroups (groups : Entries (List Json)) : Entries Json :=
  groups.filterMap fun group =>
    if group.2.isEmpty then none else some (group.1, .array group.2)

mutual

def toJson : Query → Json
  | .everything => .single "match_all" .emptyObject
  | .term field value => onField "term" field [("value", .string value)]
  | .leading field value => onField "prefix" field [("value", .string value)]
  | .queryString defaultField query =>
      .single "query_string"
        (.object [("query", .string query), ("default_field", .string defaultField)])
  | .words field query => onField "match" field [("query", .string query)]
  | .phrase field query => onField "match_phrase" field [("query", .string query)]
  | .multiField fields query =>
      .single "multi_match" (.object [("query", .string query), ("fields", .strings fields)])
  | .wildcard field value => onField "wildcard" field [("value", .string value)]
  | .regexp field value => onField "regexp" field [("value", .string value)]
  | .range field above below =>
      onField "range" field [("gt", .string above), ("lt", .string below)]
  | .combined must should mustNot =>
      .single "bool" (.object (presentGroups
        [(Group.must.key, listJson must), (Group.should.key, listJson should),
          (Group.mustNot.key, listJson mustNot)]))

def listJson : List Query → List Json
  | [] => []
  | first :: rest => toJson first :: listJson rest

end

theorem listJson_eq_map (queries : List Query) : listJson queries = queries.map toJson := by
  induction queries with
  | nil => simp [listJson]
  | cons first rest ih => simp [listJson, ih]

def inGroup (group : Group) (entries : List (Group × Query)) : List Query :=
  entries.filterMap fun entry => if entry.1 = group then some entry.2 else none

def ofGroups (entries : List (Group × Query)) : Query :=
  .combined (inGroup .must entries) (inGroup .should entries) (inGroup .mustNot entries)

end Query

end SearchKit
