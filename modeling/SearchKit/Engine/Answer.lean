import SearchKit.Json.Printer
import SearchKit.Json.Reader
import SearchKit.Text.Basic

/-!
Answers of the engine: the status, the JSON of the body, whether the action succeeded, and why not.
-/

namespace SearchKit

set_option autoImplicit false

structure Answer where
  status : UInt16
  succeeded : Bool
  errorMessage : Option String
  json : Json
deriving DecidableEq, Repr

namespace Answer

/-- What an answer says went wrong: the text of its `error`, or its type and reason. -/
def errorText (json : Json) : Option String :=
  match json.member? "error" with
  | none => none
  | some (.string text) => some text
  | some (.object members) =>
      let part (name : String) := (Entries.find? name members).bind Json.asString?
      match part "type", part "reason" with
      | some kind, some reason => some (kind ++ ": " ++ reason)
      | none, some reason => some reason
      | _, none => some (Json.object members).text
  | some other => some other.text

/-- A blank body is null, and a body that is not JSON is its text. -/
def bodyJson (body : String) : Json :=
  if Text.isBlankText body then .null
  else
    match Json.ofText body with
    | .ok json => json
    | .error _ => .string body

def statusSucceeds (status : UInt16) : Bool := 200 ≤ status && status < 300

/-- The answer of a status and a body. A good status still fails when the body reports errors. -/
def ofParts (status : UInt16) (body : String) : Answer :=
  let json := bodyJson body
  if statusSucceeds status then
    if (json.member? "errors").bind Json.asBool? = some true then
      ⟨status, false, some "one or more bulk items failed", json⟩
    else ⟨status, true, none, json⟩
  else ⟨status, false, some ((errorText json).getD ("HTTP " ++ toString status.toNat)), json⟩

def success (json : Json) : Answer := ⟨200, true, none, json⟩

end Answer

end SearchKit
