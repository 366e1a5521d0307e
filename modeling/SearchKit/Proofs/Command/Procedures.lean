import SearchKit.Command.Run
import SearchKit.Proofs.Checked
import SearchKit.Proofs.Engine.Running

/-!
Commands in parts. A command reads its files and arguments, runs one operation of the library, and
prints what the operation gives. Printing is the last step and the only one of its kind, so a
command that fails has printed nothing, however much it exchanged with the engine.
-/

namespace SearchKit

set_option autoImplicit false

variable {σ τ α β : Type}

/-! ## What commands run -/

def statusOf (name : String) (operation : Operation Bool) : Operation Json :=
  (fun accepted => (Status.acknowledged name accepted).toJson) <$> operation

/-- The operation that a command runs once its files and arguments are read. -/
def IndexCommand.prepare (around : Surroundings) :
    IndexCommand → Except CommandFailure (Operation Json)
  | .create index settings docType mappings => do
      let settings ← around.inlineJson? settings
      let mappings ← around.inlineJson? mappings
      return statusOf "createIndex" (Operation.createIndex index settings docType mappings)
  | .exists index => return statusOf "existsIndex" (Operation.indexExists index)
  | .delete index => return statusOf "deleteIndex" (Operation.deleteIndex index)
  | .mapping index docType argument => do
      let value ← around.inlineJson argument
      return statusOf "createMapping" (Operation.putMapping index docType value)

def prepareSave (index docType : String) (id : Option String) (bulk : Bool) :
    Json → Except CommandFailure (Operation Json)
  | .array documents =>
      if id.isSome then throw (.ofArguments .idForSeveral)
      else if bulk then return statusOf "bulk" (Operation.saveBulk index docType documents)
      else
        return statusOf "saveDocList" do
          Operation.saveList index docType documents
          return true
  | document =>
      return statusOf "saveDoc"
        (Operation.saveDocument index docType (id.or document.documentId?) document)

def DocumentCommand.prepare (around : Surroundings) :
    DocumentCommand → Except CommandFailure (Operation Json)
  | .save index docType data id bulk => do
      let data ← around.inlineJson data
      prepareSave index docType id bulk data
  | .update target data => do
      let payload ← around.inlineJson data
      return statusOf "updateDoc"
        (Operation.updateDocument target.index target.docType target.id payload)
  | .delete target =>
      return statusOf "deleteDoc"
        (Operation.deleteDocument target.index target.docType target.id)
  | .deleteByQuery index docType query => do
      let query ← around.inlineText query
      return statusOf "deleteByQuery" (Operation.deleteByQuery index docType query)

/-- A search whose order is read by the library too. -/
def RawSearch.operation (raw : RawSearch) (query : String) : Operation Json := do
  let order ← Operation.ofChecked (raw.order.mapM Order.ofText)
  Envelope.toJson <$> Operation.searchRaw query raw.indices raw.types raw.page order

def EngineCommand.prepare (around : Surroundings) :
    EngineCommand → Except CommandFailure (Operation Json)
  | .search argument => do
      let requests ← Requests.read around argument
      return Envelope.toJson <$> requests.search
  | .raw wanted => do
      let query ← around.inlineText wanted.query
      return wanted.operation query
  | .get target => return Operation.get target.index target.docType target.id
  | .multiGet name docType ids => return Json.array <$> Operation.multiGet name docType ids
  | .index command => command.prepare around
  | .document command => command.prepare around

/-! ## Procedures -/

namespace Procedure

theorem checked_ok_bind (value : α) (next : α → Procedure β) :
    (ofChecked (.ok value) >>= next) = next value := by
  have same : (ofChecked (.ok value) : Procedure α) = pure value := rfl
  rw [same, pure_bind]

theorem of_operation_map (operation : Operation α) (change : α → β) :
    ofOperation (change <$> operation) = change <$> ofOperation operation := by
  apply ExceptT.ext
  apply StateT.ext
  intro printed
  simp only [ofOperation, ExceptT.run_mk, ExceptT.run_map, StateT.run_lift, StateT.run_map,
    bind_assoc, bind_map_left, map_bind, pure_bind, map_pure]
  apply bind_congr
  intro result
  cases result <;> rfl

/-- A procedure is some preparation without the engine, then an operation, and then the document
that the operation gives is printed. -/
def Prepares (procedure : Procedure Unit) (prepared : Except CommandFailure (Operation Json)) :
    Prop :=
  procedure = ofChecked prepared >>= fun operation => ofOperation operation >>= print

theorem prepares_print (operation : Operation α) (change : α → Json) :
    Prepares (ofOperation operation >>= fun value => print (change value))
      (.ok (change <$> operation)) := by
  rw [Prepares, checked_ok_bind, of_operation_map, bind_map_left]

theorem prepares_operation (operation : Operation Json) :
    Prepares (ofOperation operation >>= print) (.ok operation) := by
  rw [Prepares, checked_ok_bind]

theorem prepares_status (name : String) (operation : Operation Bool) :
    Prepares (acknowledged name operation) (.ok (statusOf name operation)) :=
  prepares_print operation _

theorem prepares_failure (failure : CommandFailure) :
    Prepares (throw failure) (.error failure) := rfl

theorem prepares_bind {checked : Except CommandFailure α} {next : α → Procedure Unit}
    {prepared : α → Except CommandFailure (Operation Json)}
    (each : ∀ value, Prepares (next value) (prepared value)) :
    Prepares (ofChecked checked >>= next) (checked >>= prepared) := by
  cases checked with
  | error failure => exact prepares_failure failure
  | ok value =>
      rw [checked_ok_bind, Checked.ok_bind]
      exact each value

def transcript (client : Client σ) (procedure : Procedure α) (state : σ) :
    Transcript σ (Except CommandFailure α × String) :=
  Dialogue.run client procedure.dialogue state

/-- How a prepared procedure ends, and what it has printed by then. -/
def ending : Except Failure Json → Except CommandFailure Unit × String
  | .error failure => (.error (.ofLibrary failure), "")
  | .ok json => (.ok (), (Output.document json).text)

theorem dialogue_print (operation : Operation Json) :
    (ofOperation operation >>= print).dialogue =
      operation.run >>= fun result => .done (ending result) := by
  simp only [dialogue, ofOperation, ExceptT.run_bind, ExceptT.run_mk, StateT.run_bind,
    StateT.run_lift, bind_assoc, pure_bind]
  apply bind_congr
  intro result
  cases result with
  | error failure => rfl
  | ok json =>
      rw [ending, Output.text, ← String.empty_append (s := json.indentedText ++ "\n")]
      rfl

/-- The run of a prepared operation, which does not start where the preparation fails. -/
def preparedTranscript (client : Client σ) (prepared : Except CommandFailure (Operation Json))
    (state : σ) : Transcript σ (Except CommandFailure Unit × String) :=
  match prepared with
  | .error failure => ⟨(.error failure, ""), [], [], state⟩
  | .ok operation =>
      let run := Operation.transcript client operation state
      { run with result := ending run.result }

theorem Prepares.transcript_eq {procedure : Procedure Unit}
    {prepared : Except CommandFailure (Operation Json)} (prepares : Prepares procedure prepared)
    (client : Client σ) (state : σ) :
    transcript client procedure state = preparedTranscript client prepared state := by
  rw [prepares]
  cases prepared with
  | error failure => rfl
  | ok operation =>
      rw [checked_ok_bind]
      simp [transcript, dialogue_print, Dialogue.run_bind, Dialogue.run, preparedTranscript,
        Operation.transcript]

/-- A failure comes before anything is printed. -/
theorem Prepares.printed_nothing {procedure : Procedure Unit}
    {prepared : Except CommandFailure (Operation Json)} (prepares : Prepares procedure prepared)
    (client : Client σ) (state : σ) {failure : CommandFailure} {printed : String}
    (failed : (transcript client procedure state).result = (.error failure, printed)) :
    printed = "" := by
  rw [prepares.transcript_eq] at failed
  cases prepared with
  | error _ => exact (Prod.mk.inj failed).2.symm
  | ok operation =>
      rw [preparedTranscript] at failed
      cases given : (Operation.transcript client operation state).result with
      | error _ =>
          rw [given] at failed
          exact (Prod.mk.inj failed).2.symm
      | ok json =>
          rw [given] at failed
          exact absurd (Prod.mk.inj failed).1 (by simp)

end Procedure

open Procedure

theorem IndexCommand.prepares_perform (around : Surroundings) (command : IndexCommand) :
    Prepares (command.perform around) (command.prepare around) := by
  cases command with
  | create index settings docType mappings =>
      exact prepares_bind fun settings => prepares_bind fun mappings => prepares_status _ _
  | «exists» index => exact prepares_status _ _
  | delete index => exact prepares_status _ _
  | mapping index docType argument => exact prepares_bind fun value => prepares_status _ _

theorem prepares_save_data (index docType : String) (id : Option String) (bulk : Bool)
    (data : Json) :
    Prepares (saveData index docType id bulk data) (prepareSave index docType id bulk data) := by
  cases data with
  | array documents =>
      rw [saveData, prepareSave]
      split
      · exact prepares_failure _
      · split
        · exact prepares_status _ _
        · exact prepares_status _ _
  | null | bool _ | number _ | string _ | object _ => exact prepares_status _ _

theorem DocumentCommand.prepares_perform (around : Surroundings) (command : DocumentCommand) :
    Prepares (command.perform around) (command.prepare around) := by
  cases command with
  | save index docType data id bulk =>
      exact prepares_bind fun value => prepares_save_data index docType id bulk value
  | update target data => exact prepares_bind fun payload => prepares_status _ _
  | delete target => exact prepares_status _ _
  | deleteByQuery index docType query => exact prepares_bind fun text => prepares_status _ _

/-- The order of a search is refused by the library, which counts as a failure of the operation. -/
theorem RawSearch.prepares_perform (around : Surroundings) (raw : RawSearch) :
    Prepares (raw.perform around) ((EngineCommand.raw raw).prepare around) := by
  refine prepares_bind fun query => ?_
  rw [RawSearch.operation]
  cases raw.order.mapM Order.ofText with
  | error refusal => rfl
  | ok order => exact prepares_print _ _

theorem EngineCommand.prepares_perform (around : Surroundings) (command : EngineCommand) :
    Prepares (command.perform around) (command.prepare around) := by
  cases command with
  | search argument => exact prepares_bind fun requests => prepares_print _ _
  | raw wanted => exact wanted.prepares_perform around
  | get target => exact prepares_operation _
  | multiGet name docType ids => exact prepares_print _ _
  | index command => exact command.prepares_perform around
  | document command => exact command.prepares_perform around

end SearchKit
