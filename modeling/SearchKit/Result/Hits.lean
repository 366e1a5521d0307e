import SearchKit.Engine.Answer

/-!
The documents in answers of the engine: the sources of hits, with highlighted fragments in place of
the field they were found in, and the sources of documents that were asked for by id. In all of them
floating point numbers that are integers below `9.2e18` in magnitude become integers.
-/

namespace SearchKit

set_option autoImplicit false

namespace Json

/-- Floating point integers from this magnitude on stay as they are. -/
def wholeBound : Nat := 9200000000000000000

def Number.whole (number : Number) : Number :=
  match number with
  | .integer value inRange => .integer value inRange
  | .float value =>
      match value.integral? with
      | none => .float value
      | some exact =>
          if small : exact.natAbs < wholeBound then
            .integer exact (by
              have bound : wholeBound = 9200000000000000000 := rfl
              omega)
          else .float value

mutual

def wholeNumbers : Json → Json
  | .number value => .number value.whole
  | .array items => .array (wholeNumbersItems items)
  | .object members => .object (wholeNumbersMembers members)
  | .null => .null
  | .bool value => .bool value
  | .string text => .string text

def wholeNumbersItems : List Json → List Json
  | [] => []
  | item :: rest => wholeNumbers item :: wholeNumbersItems rest

def wholeNumbersMembers : List (String × Json) → List (String × Json)
  | [] => []
  | (name, value) :: rest => (name, wholeNumbers value) :: wholeNumbersMembers rest

end

end Json

namespace Hits

/-- The count of all hits, as a plain number or under `value`. -/
def total? (json : Json) : Option UInt64 :=
  match (json.member? "hits").bind (Json.member? "total") with
  | some (.object members) => (Entries.find? "value" members).bind Json.asUnsigned?
  | some other => other.asUnsigned?
  | none => none

def list (json : Json) : List Json :=
  (((json.member? "hits").bind (Json.member? "hits")).bind Json.asArray?).getD []

/-- The source of a hit or of a document, when it is an object. -/
def source? (json : Json) : Option (Entries Json) :=
  match json.member? "_source" with
  | some (.object members) => some members
  | _ => none

def fragmentText : Json → String
  | .string text => text
  | other => other.text

/-- The fragments of a highlighted field put together, unless there is nothing in them. -/
def highlightText? (hit : Json) (field : String) : Option String :=
  match ((hit.member? "highlight").bind (Json.member? field)).bind Json.asArray? with
  | none => none
  | some fragments =>
      let text := String.join (fragments.map fragmentText)
      if text.isEmpty then none else some text

/-- The source of a hit, empty when it has none, with the highlighted text under the field. -/
def document (highlighted : Option String) (hit : Json) : Json :=
  let source := (source? hit).getD []
  let marked :=
    match highlighted with
    | none => source
    | some field =>
        match highlightText? hit field with
        | none => source
        | some text => Entries.put field (.string text) source
  (Json.object marked).wholeNumbers

def documents (highlighted : Option String) (json : Json) : List Json :=
  (list json).map (document highlighted)

def took? (json : Json) : Option UInt64 := (json.member? "took").bind Json.asUnsigned?

end Hits

namespace Answer

/-- The document of an answer to a look-up by id, or the empty object when it was not found. -/
def foundDocument (answer : Answer) : Json :=
  if !answer.succeeded || (answer.json.member? "found").bind Json.asBool? == some false then
    .emptyObject
  else (Json.object ((Hits.source? answer.json).getD [])).wholeNumbers

end Answer

namespace Hits

/-- The documents of an answer to a look-up by several ids, without entries that have no source. -/
def foundDocuments (json : Json) : List Json :=
  (((json.member? "docs").bind Json.asArray?).getD []).filterMap fun entry =>
    (source? entry).map fun source => (Json.object source).wholeNumbers

end Hits

end SearchKit
