import SearchKit.Engine.Dialogue
import SearchKit.Result.Hits

/-!
Single exchanges with the engine, judged and logged: a search or a batch of searches gives the whole
answer or fails, and every other action gives whether the engine accepted it.
-/

namespace SearchKit

set_option autoImplicit false

/-- Logged bodies are cut to this many characters. -/
def loggedBodyLimit : Nat := 4096

def loggedBody (body : String) : String := Text.abbreviate loggedBodyLimit body

def shownOption : Option UInt64 → String
  | some value => "Some(" ++ toString value.toNat ++ ")"
  | none => "None"

def shownOptions (values : List (Option UInt64)) : String :=
  "[" ++ ", ".intercalate (values.map shownOption) ++ "]"

namespace LogEvent

def uriField (action : Action) : String × LogValue := ("uri", .text action.uri)

def searchStarted (action : Action) : LogEvent :=
  ⟨.info, "search [" ++ action.uri ++ "]: " ++ loggedBody (action.body.getD ""), [uriField action]⟩

def searchFailed (action : Action) (fault : SearchFault) : LogEvent :=
  ⟨.error, "search failed! " ++ fault.message, [uriField action]⟩

def searchFinished (action : Action) (took total : String) : LogEvent :=
  ⟨.info, "search result", [uriField action, ("took", .text took), ("total", .text total)]⟩

def clientFailed (action : Action) (failure : Failure) : LogEvent :=
  ⟨.error, action.name ++ " failed! " ++ failure.message, [uriField action]⟩

def accepted (action : Action) : LogEvent :=
  ⟨.info, "engine accepted", [("operation", .text action.name), uriField action]⟩

def rejected (action : Action) (answer : Answer) : LogEvent :=
  ⟨.warning, "engine rejected",
    [("operation", .text action.name), uriField action, ("status", .count answer.status.toNat),
      ("error", .text (answer.errorMessage.getD ""))]⟩

end LogEvent

namespace Operation

def failSearch {α : Type} (action : Action) (fault : SearchFault) : Operation α := do
  log (.searchFailed action fault)
  throw (.searchFailed action.uri fault)

def answered (action : Action) : Operation Answer := do
  log (.searchStarted action)
  match ← execute action with
  | .ok answer =>
      if answer.succeeded then return answer
      else failSearch action (.refusedByEngine answer.status answer.errorMessage)
  | .error failure => failSearch action (.clientFailed failure.message)

def search (wanted : Search) : Operation Json := do
  let action := Action.search wanted
  let answer ← answered action
  log (.searchFinished action (shownOption (Hits.took? answer.json))
    (shownOption (Hits.total? answer.json)))
  return answer.json

/-- The first answer of a batch that reports an error, with its position. -/
def firstError? (position : Nat) : List Json → Option (Nat × String)
  | [] => none
  | json :: rest =>
      match Answer.errorText json with
      | some reason => some (position, reason)
      | none => firstError? (position + 1) rest

/-- The answers to a batch, one for each search. -/
def answersOf (searches : List Search) (json : Json) : Except SearchFault (List Json) :=
  match json with
  | .object members =>
      match Entries.find? "responses" members with
      | some (.array answers) =>
          if answers.length = searches.length then
            match firstError? 0 answers with
            | some (position, reason) => .error (.subSearch position reason)
            | none => .ok answers
          else .error (.responseCount searches.length answers.length)
      | _ => .error .noResponses
  | _ => .error .answerNotObject

def searchAll (searches : List Search) : Operation (List Json) := do
  let action := Action.multiSearch searches
  let answer ← answered action
  match answersOf searches answer.json with
  | .error fault => failSearch action fault
  | .ok answers => do
      log (.searchFinished action (shownOptions (answers.map Hits.took?))
        (shownOptions (answers.map Hits.total?)))
      return answers

/-- Executes an action and tells whether the engine accepted it. -/
def acknowledge (action : Action) : Operation Bool := do
  match ← execute action with
  | .ok answer => do
      log (if answer.succeeded then .accepted action else .rejected action answer)
      return answer.succeeded
  | .error failure => do
      log (.clientFailed action failure)
      throw (.operationFailed action.name failure.message)

end Operation

end SearchKit
