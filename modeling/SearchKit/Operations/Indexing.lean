import SearchKit.Engine.Exchange

/-!
Administration of indices.
-/

namespace SearchKit.Operation

set_option autoImplicit false

/-- Settings without content: null, blank text or an empty object. -/
def isBlankSettings : Json → Bool
  | .null => true
  | .string text => Text.isBlankText text
  | .object members => members.isEmpty
  | _ => false

def putMapping (index docType : String) (mapping : Json) : Operation Bool :=
  acknowledge (.putMapping index docType mapping)

/-- A mapping goes with the type that it is for. -/
def typedMapping (docType : Option String) (mapping : Option Json) :
    Except Refusal (Option (String × Json)) :=
  match mapping, docType with
  | none, _ => .ok none
  | some mapping, some name =>
      if name.isEmpty then .error .mappingWithoutType else .ok (some (name, mapping))
  | some _, none => .error .mappingWithoutType

/-- Creates an index and, once that is accepted, puts the mapping. -/
def createIndex (index : String) (settings : Option Json) (docType : Option String)
    (mapping : Option Json) : Operation Bool := do
  let typed ← ofChecked (typedMapping docType mapping)
  let created ← acknowledge
    (.createIndex index (settings.filter fun value => !isBlankSettings value))
  if created then
    match typed with
    | some (name, mapping) => putMapping index name mapping
    | none => return true
  else return false

def indexExists (index : String) : Operation Bool := acknowledge (.indexExists index)

def deleteIndex (index : String) : Operation Bool := acknowledge (.deleteIndex index)

end SearchKit.Operation
