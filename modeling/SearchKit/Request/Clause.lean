import SearchKit.Json.Decoding

/-!
The clauses of a search: each asks a field for a value in a certain mode, and stands in one of three
groups.
-/

namespace SearchKit

set_option autoImplicit false

inductive MatchMode where
  | term
  | leading
  | queryString
  | words
  | phrase
  | multiField
  | wildcard
  | regexp
  | range
  | everything
deriving DecidableEq, Repr

namespace MatchMode

def word : MatchMode → String
  | .term => "term"
  | .leading => "prefix"
  | .queryString => "query_string"
  | .words => "match"
  | .phrase => "match_phrase"
  | .multiField => "multi_match"
  | .wildcard => "wildcard"
  | .regexp => "regexp"
  | .range => "range"
  | .everything => "match_all"

/-- The words that a request may use, in the order in which messages list them. -/
def wordList : List String :=
  ["term", "prefix", "query_string", "match", "match_phrase", "multi_match", "wildcard", "regex",
    "regexp", "range", "match_all"]

def ofWord (word : String) : Except Json.Mismatch MatchMode :=
  match word with
  | "term" => .ok .term
  | "prefix" => .ok .leading
  | "query_string" => .ok .queryString
  | "match" => .ok .words
  | "match_phrase" => .ok .phrase
  | "multi_match" => .ok .multiField
  | "wildcard" => .ok .wildcard
  | "regex" | "regexp" => .ok .regexp
  | "range" => .ok .range
  | "match_all" => .ok .everything
  | other => .error (.unknownVariant other wordList)

theorem ofWord_word (mode : MatchMode) : ofWord mode.word = .ok mode := by
  cases mode <;> rfl

/-- A mode has no payload; an empty object counts as none too. -/
def noPayload : Json → Except Json.Mismatch Unit
  | .null | .object [] => .ok ()
  | other => .error (.wrongType other.found "unit")

def decode : Json.Decoder MatchMode := Json.Decoder.variant ofWord noPayload

end MatchMode

/-- A clause without a value takes the value of its request. -/
structure Clause where
  field : String
  value : Option Json
  mode : MatchMode
deriving DecidableEq, Repr

namespace Clause

def everything : Clause := ⟨"", none, .everything⟩

def toJson (clause : Clause) : Json :=
  .object <|
    [("fieldName", .string clause.field)]
      ++ Entries.ofPresent [("value", clause.value)]
      ++ [("queryType", .string clause.mode.word)]

def readMember (clause : Clause) (member : String × Json) : Except Json.Mismatch Clause :=
  match member.1 with
  | "fieldName" => do
      let field ← Json.Decoder.string member.2
      return { clause with field }
  | "value" => do
      let value ← Json.Decoder.optional Json.Decoder.any member.2
      return { clause with value }
  | "queryType" => do
      let mode ← MatchMode.decode member.2
      return { clause with mode }
  | _ => .ok clause

def decode : Json.Decoder Clause
  | .object members => members.foldlM readMember ⟨"", none, .term⟩
  | .array items => do
      let field ← Json.Decoder.element items 0 Json.Decoder.string ""
      let value ← Json.Decoder.element items 1 (Json.Decoder.optional Json.Decoder.any) none
      let mode ← Json.Decoder.element items 2 MatchMode.decode .term
      if items.length ≤ 3 then return ⟨field, value, mode⟩
      else .error (.wrongLength items.length "3 elements in sequence")
  | other => .error (.wrongType other.found "struct FieldClause")

end Clause

inductive Group where
  | must
  | should
  | mustNot
deriving DecidableEq, Repr

def Group.key : Group → String
  | .must => "must"
  | .should => "should"
  | .mustNot => "must_not"

structure Clauses where
  must : List Clause
  should : List Clause
  mustNot : List Clause
deriving DecidableEq, Repr

namespace Clauses

def none : Clauses := ⟨[], [], []⟩

def length (clauses : Clauses) : Nat :=
  clauses.must.length + clauses.should.length + clauses.mustNot.length

def all (clauses : Clauses) : List (Group × Clause) :=
  clauses.must.map (Group.must, ·) ++ clauses.should.map (Group.should, ·)
    ++ clauses.mustNot.map (Group.mustNot, ·)

def isEmpty (clauses : Clauses) : Bool :=
  clauses.must.isEmpty && clauses.should.isEmpty && clauses.mustNot.isEmpty

def hasEverything (clauses : Clauses) : Bool :=
  clauses.all.any fun entry => entry.2.mode == .everything

def add (clauses : Clauses) (group : Group) (clause : Clause) : Clauses :=
  match group with
  | .must => { clauses with must := clauses.must ++ [clause] }
  | .should => { clauses with should := clauses.should ++ [clause] }
  | .mustNot => { clauses with mustNot := clauses.mustNot ++ [clause] }

/-- Empty groups are not written. -/
def members (clauses : Clauses) : Entries Json :=
  [("must", clauses.must), ("should", clauses.should), ("mustNot", clauses.mustNot)].filterMap
    fun group =>
      if group.2.isEmpty then Option.none
      else some (group.1, Json.array (group.2.map Clause.toJson))

def readMember (clauses : Clauses) (member : String × Json) : Except Json.Mismatch Clauses :=
  match member.1 with
  | "must" => do
      let must ← Json.Decoder.list Clause.decode member.2
      return { clauses with must }
  | "should" => do
      let should ← Json.Decoder.list Clause.decode member.2
      return { clauses with should }
  | "mustNot" => do
      let mustNot ← Json.Decoder.list Clause.decode member.2
      return { clauses with mustNot }
  | _ => .ok clauses

end Clauses

end SearchKit
