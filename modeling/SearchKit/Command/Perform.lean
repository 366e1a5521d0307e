import SearchKit.Command.Basic
import SearchKit.Command.Failure
import SearchKit.Operations.Indexing
import SearchKit.Operations.Searching
import SearchKit.Operations.Writing
import SearchKit.Settings.File

/-!
What each command does. A command that needs the engine is a dialogue with it, which reads all its
files and arguments before its first action, and prints.
-/

namespace SearchKit

set_option autoImplicit false

/-- What a command finds around it: files, the standard input, the path of the general settings
file, and what is said of settings that are refused. -/
structure Surroundings where
  files : FileAccess
  input : Except ReadFault String
  settingsPath : Option String
  diagnosis : Diagnosis

/-- The steps of a command: it asks the engine, prints, and may fail. A failure does not take back
what was printed before it. -/
abbrev Procedure (α : Type) := ExceptT CommandFailure (StateT String Dialogue) α

namespace Procedure

variable {α : Type}

def ofChecked (checked : Except CommandFailure α) : Procedure α := ExceptT.mk (pure checked)

def ofOperation (operation : Operation α) : Procedure α :=
  ExceptT.mk (StateT.lift (operation.run >>= fun result => pure (result.mapError .ofLibrary)))

/-- Prints a document on lines of its own, behind what was printed so far. -/
def print (json : Json) : Procedure Unit :=
  modify fun printed => printed ++ (json.indentedText ++ "\n")

/-- The dialogue of a procedure, which ends with everything that was printed. -/
def dialogue (procedure : Procedure α) : Dialogue (Except CommandFailure α × String) :=
  procedure.run.run ""

end Procedure

namespace Surroundings

/-- A text given in place, or the file that is named after an at sign. -/
def inlineText (around : Surroundings) (argument : String) : Except CommandFailure String :=
  match argument.toList with
  | '@' :: path =>
      (around.files (String.ofList path)).mapError fun _ =>
        .ofArguments (.fileUnread (String.ofList path))
  | _ => .ok argument

def inlineJson (around : Surroundings) (argument : String) : Except CommandFailure Json := do
  let text ← around.inlineText argument
  (Json.ofText text).mapError fun _ => .ofArguments .argumentNotJson

def inlineJson? (around : Surroundings) : Option String → Except CommandFailure (Option Json)
  | none => .ok none
  | some argument => (around.inlineJson argument).map some

/-- The text of a file, or the standard input for a dash. -/
def requestText (around : Surroundings) (argument : String) : Except CommandFailure String :=
  if argument = "-" then around.input.mapError fun _ => .ofArguments .inputUnread
  else (around.files argument).mapError fun _ => .ofArguments (.requestUnread argument)

end Surroundings

/-! ## Requests -/

inductive Requests where
  | one (request : Request)
  | many (requests : List Request)
deriving DecidableEq, Repr

namespace Requests

def ofJson : Json → Except ArgumentFault Requests
  | .array items =>
      match Json.Decoder.list Request.decode (.array items) with
      | .ok requests => .ok (.many requests)
      | .error _ => .error .requestsNotDecoded
  | other =>
      match Request.decode other with
      | .ok request => .ok (.one request)
      | .error _ => .error .requestNotDecoded

def read (around : Surroundings) (argument : String) : Except CommandFailure Requests := do
  let text ← around.requestText argument
  match Json.ofText text with
  | .error _ => throw (.ofArguments .requestNotJson)
  | .ok json => (ofJson json).mapError .ofArguments

def compiledJson (request : Request) : Except CommandFailure Json :=
  match request.compile with
  | .ok search =>
      .ok (.object [("uri", .string (Action.search search).uri), ("body", search.body)])
  | .error refusal => .error (.ofLibrary (.invalidRequest refusal))

def compiled : Requests → Except CommandFailure Json
  | .one request => compiledJson request
  | .many requests => (requests.mapM compiledJson).map .array

def search : Requests → Operation Envelope
  | .one request => Operation.searchRequest request
  | .many requests => Operation.searchRequests requests

end Requests

/-! ## Commands of the engine -/

namespace RawSearch

def page (raw : RawSearch) : Option Page :=
  if raw.pageNumber.isSome || raw.pageSize.isSome then
    some (.ofNumbers raw.pageNumber raw.pageSize)
  else none

def perform (around : Surroundings) (raw : RawSearch) : Procedure Unit := do
  let query ← Procedure.ofChecked (around.inlineText raw.query)
  let order ← Procedure.ofChecked ((raw.order.mapM Order.ofText).mapError fun refusal =>
    .ofLibrary (.invalidRequest refusal))
  let envelope ← Procedure.ofOperation
    (Operation.searchRaw query raw.indices raw.types raw.page order)
  Procedure.print envelope.toJson

end RawSearch

def acknowledged (name : String) (operation : Operation Bool) : Procedure Unit := do
  let accepted ← Procedure.ofOperation operation
  Procedure.print (Status.acknowledged name accepted).toJson

def IndexCommand.perform (around : Surroundings) : IndexCommand → Procedure Unit
  | .create index settings docType mappings => do
      let settings ← Procedure.ofChecked (around.inlineJson? settings)
      let mappings ← Procedure.ofChecked (around.inlineJson? mappings)
      acknowledged "createIndex" (Operation.createIndex index settings docType mappings)
  | .exists index => acknowledged "existsIndex" (Operation.indexExists index)
  | .delete index => acknowledged "deleteIndex" (Operation.deleteIndex index)
  | .mapping index docType argument => do
      let value ← Procedure.ofChecked (around.inlineJson argument)
      acknowledged "createMapping" (Operation.putMapping index docType value)

/-- Saves one document, or the documents of an array, which have their own ids. -/
def saveData (index docType : String) (id : Option String) (bulk : Bool) : Json → Procedure Unit
  | .array documents =>
      if id.isSome then throw (.ofArguments .idForSeveral)
      else if bulk then acknowledged "bulk" (Operation.saveBulk index docType documents)
      else
        acknowledged "saveDocList" do
          Operation.saveList index docType documents
          return true
  | document =>
      acknowledged "saveDoc"
        (Operation.saveDocument index docType (id.or document.documentId?) document)

def DocumentCommand.perform (around : Surroundings) : DocumentCommand → Procedure Unit
  | .save index docType data id bulk => do
      let data ← Procedure.ofChecked (around.inlineJson data)
      saveData index docType id bulk data
  | .update target data => do
      let payload ← Procedure.ofChecked (around.inlineJson data)
      acknowledged "updateDoc"
        (Operation.updateDocument target.index target.docType target.id payload)
  | .delete target =>
      acknowledged "deleteDoc" (Operation.deleteDocument target.index target.docType target.id)
  | .deleteByQuery index docType query => do
      let query ← Procedure.ofChecked (around.inlineText query)
      acknowledged "deleteByQuery" (Operation.deleteByQuery index docType query)

def EngineCommand.perform (around : Surroundings) : EngineCommand → Procedure Unit
  | .search request => do
      let requests ← Procedure.ofChecked (Requests.read around request)
      let envelope ← Procedure.ofOperation requests.search
      Procedure.print envelope.toJson
  | .raw wanted => wanted.perform around
  | .get target => do
      let document ← Procedure.ofOperation
        (Operation.get target.index target.docType target.id)
      Procedure.print document
  | .multiGet name docType ids => do
      let documents ← Procedure.ofOperation (Operation.multiGet name docType ids)
      Procedure.print (.array documents)
  | .index command => command.perform around
  | .document command => command.perform around

end SearchKit
