import SearchKit.Proofs.Command.Procedures
import SearchKit.Proofs.Operations.InTurn
import SearchKit.Proofs.Operations.SavingInOrder

/-!
What the report of a command says about the engine's replies. A command on indices or documents
prints whether its actions were accepted; where it prints a yes, they were, but for documents that
are saved one by one.
-/

namespace SearchKit

set_option autoImplicit false

variable {σ τ α : Type}

/-! ## What commands vouch for -/

/-- The operation gives a status only, and a yes means that every action it performed succeeded. -/
def Operation.Honest (operation : Operation Json) : Prop :=
  ∀ {σ : Type} (client : Client σ) (state : σ) (json : Json),
    (transcript client operation state).result = .ok json →
      ∃ name accepted, json = (Status.acknowledged name accepted).toJson ∧
        (accepted = true →
          ∀ exchange ∈ (transcript client operation state).exchanges, exchange.Succeeded)

theorem honest_status (name : String) {operation : Operation Bool} (vouches : operation.Vouches) :
    (statusOf name operation).Honest := by
  intro σ client state json given
  rw [statusOf, Operation.transcript_map] at given ⊢
  obtain ⟨accepted, answered, rfl⟩ := (Checked.map_eq_ok _ _ _).mp given
  refine ⟨name, accepted, rfl, ?_⟩
  rintro rfl
  exact vouches client state answered

def PreparesHonestly (prepared : Except CommandFailure (Operation Json)) : Prop :=
  ∀ operation, prepared = .ok operation → operation.Honest

theorem prepares_honestly_status (name : String) {operation : Operation Bool}
    (vouches : operation.Vouches) : PreparesHonestly (.ok (statusOf name operation)) := by
  rintro _ ⟨⟩
  exact honest_status name vouches

theorem prepares_honestly_bind {checked : Except CommandFailure α}
    {next : α → Except CommandFailure (Operation Json)}
    (each : ∀ value, checked = .ok value → PreparesHonestly (next value)) :
    PreparesHonestly (checked >>= next) := by
  intro operation prepared
  obtain ⟨value, read, prepared⟩ := (Checked.bind_eq_ok _ _ _).mp prepared
  exact each value read operation prepared

theorem IndexCommand.prepares_honestly (around : Surroundings) (command : IndexCommand) :
    PreparesHonestly (command.prepare around) := by
  cases command with
  | create index settings docType mappings =>
      exact prepares_honestly_bind fun settings _ => prepares_honestly_bind fun mappings _ =>
        prepares_honestly_status _
          (Instruction.createIndex index settings docType mappings).vouches_perform
  | «exists» index =>
      exact prepares_honestly_status _ (Instruction.indexExists index).vouches_perform
  | delete index =>
      exact prepares_honestly_status _ (Instruction.deleteIndex index).vouches_perform
  | mapping index docType argument =>
      exact prepares_honestly_bind fun value _ =>
        prepares_honestly_status _ (Instruction.putMapping index docType value).vouches_perform

/-- A command that saves the documents of an array, each in its own action. -/
def EngineCommand.SavesOneByOne (around : Surroundings) (command : EngineCommand) : Prop :=
  ∃ index docType data documents,
    command = .document (.save index docType data none false) ∧
      around.inlineJson data = .ok (.array documents)

theorem prepares_honestly_save (index docType : String) (id : Option String) (bulk : Bool)
    (data : Json)
    (atOnce : (∀ documents, data ≠ .array documents) ∨ id.isSome = true ∨ bulk = true) :
    PreparesHonestly (prepareSave index docType id bulk data) := by
  unfold prepareSave
  split
  · rename_i documents
    split
    · rintro _ ⟨⟩
    · split
      · exact prepares_honestly_status _
          (Instruction.saveBulk index docType documents).vouches_perform
      · rename_i noId noBulk
        exact absurd atOnce (by simp [noId, noBulk])
  · exact prepares_honestly_status _
      (Instruction.saveDocument index docType (id.or data.documentId?) data).vouches_perform

theorem DocumentCommand.prepares_honestly (around : Surroundings) (command : DocumentCommand)
    (atOnce : ¬(EngineCommand.document command).SavesOneByOne around) :
    PreparesHonestly (command.prepare around) := by
  cases command with
  | save index docType data id bulk =>
      apply prepares_honestly_bind
      intro value read
      apply prepares_honestly_save
      by_contra several
      simp only [not_or, not_forall, Classical.not_not] at several
      obtain ⟨⟨documents, isArray⟩, noId, noBulk⟩ := several
      apply atOnce
      simp only [Bool.not_eq_true, Option.isSome_eq_false_iff, Option.isNone_iff_eq_none]
        at noId noBulk
      exact ⟨index, docType, data, documents, by rw [noId, noBulk], by rw [read, isArray]⟩
  | update target data =>
      exact prepares_honestly_bind fun value _ => prepares_honestly_status _
        (Instruction.updateDocument target.index target.docType target.id value).vouches_perform
  | delete target =>
      exact prepares_honestly_status _
        (Instruction.deleteDocument target.index target.docType target.id).vouches_perform
  | deleteByQuery index docType query =>
      exact prepares_honestly_bind fun text _ => prepares_honestly_status _
        (Instruction.deleteByQuery index docType text).vouches_perform

/-! ## What is printed -/

/-- The text that is printed is a status with a yes. -/
def Report.SaysOk (report : Report) : Prop :=
  ∃ operation, report.output = (Output.document (Status.acknowledged operation true).toJson).text

theorem flag_of_text {flag other : Bool} {members others : Entries Json}
    (same : (Output.document (.object (("ok", .bool flag) :: members))).text =
      (Output.document (.object (("ok", .bool other) :: others))).text) : flag = other := by
  have chars := congrArg String.toList same
  cases flag <;> cases other
  · rfl
  · simp [Output.text, Json.indentedText, Json.indentedChars, Json.chars] at chars
  · simp [Output.text, Json.indentedText, Json.indentedChars, Json.chars] at chars
  · rfl

theorem says_ok_of_status {asJson : Bool} {operation : String} {accepted : Bool} :
    (Report.ofPrinted asJson
        (Procedure.ending (.ok (Status.acknowledged operation accepted).toJson))).SaysOk ↔
      accepted = true := by
  constructor
  · rintro ⟨other, same⟩
    exact flag_of_text same
  · rintro rfl
    exact ⟨operation, rfl⟩

theorem not_says_ok_of_failure (asJson : Bool) (failure : CommandFailure) :
    ¬(Report.ofPrinted asJson (.error failure, "")).SaysOk := by
  rintro ⟨operation, same⟩
  rw [Report.ofPrinted, Report.ofFailure] at same
  split at same
  · simp only [String.empty_append] at same
    have flags := flag_of_text same
    contradiction
  · have chars := congrArg String.toList same
    simp [Output.text, Json.indentedText, Status.toJson, Json.indentedChars] at chars

theorem says_ok_of_saves_one_by_one {around : Surroundings} {command : EngineCommand}
    (oneByOne : command.SavesOneByOne around) (client : Client σ) (state : σ) (asJson : Bool) :
    let run := Procedure.transcript client (command.perform around) state
    run.exchanges = [] ∨
      ((Report.ofPrinted asJson run.result).SaysOk ↔
        ∀ exchange ∈ run.exchanges, exchange.HasAnswer) := by
  obtain ⟨index, docType, data, documents, rfl, read⟩ := oneByOne
  let saving : Operation Bool := do Operation.saveList index docType documents; return true
  have prepared : EngineCommand.prepare around (.document (.save index docType data none false)) =
      .ok (statusOf "saveDocList" saving) := by
    have bound : EngineCommand.prepare around (.document (.save index docType data none false)) =
        around.inlineJson data >>= prepareSave index docType none false := rfl
    rw [bound, read, Checked.ok_bind]
    rfl
  have ends := Operation.save_list_result_iff client index docType documents state
  intro run
  simp only [run, (EngineCommand.prepares_perform around _).transcript_eq, prepared,
    Procedure.preparedTranscript, statusOf, Operation.transcript_map]
  rcases ends with ⟨-, none⟩ | answered
  · exact .inl none
  · right
    rw [← answered]
    cases (Operation.transcript client saving state).result with
    | error failure =>
        have silent := not_says_ok_of_failure asJson (.ofLibrary failure)
        simpa [Except.map, Procedure.ending] using silent
    | ok accepted => simp only [Except.map, says_ok_of_status, Except.ok.injEq]

theorem all_succeeded_of_yes {procedure : Procedure Unit}
    {prepared : Except CommandFailure (Operation Json)} (prepares : procedure.Prepares prepared)
    (honestly : PreparesHonestly prepared) (client : Client σ) (state : σ) {asJson : Bool}
    (yes : (Report.ofPrinted asJson
      (Procedure.transcript client procedure state).result).SaysOk) :
    ∀ exchange ∈ (Procedure.transcript client procedure state).exchanges, exchange.Succeeded := by
  rw [prepares.transcript_eq] at yes ⊢
  cases prepared with
  | error failure => exact absurd yes (not_says_ok_of_failure asJson failure)
  | ok operation =>
      rw [Procedure.preparedTranscript] at yes ⊢
      cases given : (Operation.transcript client operation state).result with
      | error failure =>
          rw [given] at yes
          exact absurd yes (not_says_ok_of_failure asJson (.ofLibrary failure))
      | ok json =>
          obtain ⟨name, accepted, rfl, vouched⟩ := honestly operation rfl client state json given
          rw [given] at yes
          exact vouched (says_ok_of_status.mp yes)

def EngineCommand.Administers (command : EngineCommand) : Prop :=
  (∃ inner, command = .index inner) ∨ ∃ inner, command = .document inner

theorem EngineCommand.prepares_honestly {around : Surroundings} {command : EngineCommand}
    (administers : command.Administers) (atOnce : ¬command.SavesOneByOne around) :
    PreparesHonestly (command.prepare around) := by
  rcases administers with ⟨inner, rfl⟩ | ⟨inner, rfl⟩
  · exact IndexCommand.prepares_honestly around inner
  · exact DocumentCommand.prepares_honestly around inner atOnce

/-- A command on indices or documents that prints a yes had every request accepted, unless it saves
documents one by one. That prints a yes as soon as every request was answered, so there a yes is
right only when no answer was a rejection. -/
theorem printed_yes_is_right_iff (transport : Transport τ) (wire : τ) (around : Surroundings)
    {words : List String} {command : EngineCommand} {settingsPath : Option String}
    {verbose asJson : Bool}
    (read : Arguments.read words = .ok ⟨.withEngine command, settingsPath, verbose, asJson⟩)
    (administers : command.Administers) :
    let run := runWords transport wire around words
    (run.result.SaysOk → ∀ exchange ∈ run.exchanges, exchange.Accepted transport) ↔
      (command.SavesOneByOne around →
        (∀ exchange ∈ run.exchanges, exchange.Answered transport) →
          ∀ exchange ∈ run.exchanges, exchange.Accepted transport) := by
  have invoked : runWords transport wire around words =
      Invocation.run transport wire around ⟨.withEngine command, settingsPath, verbose, asJson⟩ := by
    rw [runWords, read]
  intro run
  simp only [run, invoked, Invocation.run]
  cases Invocation.connect around ⟨.withEngine command, settingsPath, verbose, asJson⟩ with
  | error failure => simp
  | ok client =>
      have fromReply := Dialogue.all_of_run (HttpClient.through transport)
        (HttpClient.from_reply_of_execute transport) (command.perform around).dialogue (client, wire)
      dsimp only
      by_cases oneByOne : command.SavesOneByOne around
      · rcases says_ok_of_saves_one_by_one oneByOne (HttpClient.through transport) (client, wire)
          asJson with none | yes
        · rw [Procedure.transcript] at none
          simp [none]
        · rw [Procedure.transcript] at yes
          rw [yes]
          constructor
          · intro right _ answered
            exact right fun exchange member => (answered exchange member).has_answer
          · intro right hasAnswer
            exact right oneByOne fun exchange member =>
              fromReply exchange member (hasAnswer exchange member)
      · constructor
        · exact fun _ saves => absurd saves oneByOne
        · intro _ yes exchange member
          have succeeded := all_succeeded_of_yes (command.prepares_perform around)
            (EngineCommand.prepares_honestly administers oneByOne) (HttpClient.through transport)
            (client, wire) yes
          exact (fromReply exchange member).accepted (succeeded exchange member)

def Transport.replying (reply : HttpReply) : Transport Unit := ⟨fun _ _ => (.ok reply, ())⟩

def Surroundings.bare : Surroundings :=
  ⟨fun _ => .error .notFound, .ok "", none, fun _ => "TOML parse error"⟩

theorem yes_after_bulk_is_right :
    let transport := Transport.replying ⟨200, "\x7b\x7d"⟩
    let run := runWords transport () Surroundings.bare
      ["doc", "save", "books", "book", "--data", "[\x7b\"id\":1\x7d]", "--bulk"]
    run.result.SaysOk ∧ run.exchanges ≠ [] ∧
      ∀ exchange ∈ run.exchanges, exchange.Accepted transport := by
  intro transport run
  have yes : run.result.SaysOk := ⟨"bulk", by decide +kernel⟩
  have sent : run.exchanges.length = 1 := by decide +kernel
  have right := printed_yes_is_right_iff transport () Surroundings.bare
    (by decide +kernel : Arguments.read
        ["doc", "save", "books", "book", "--data", "[\x7b\"id\":1\x7d]", "--bulk"] =
      .ok ⟨.withEngine (.document (.save "books" "book" "[\x7b\"id\":1\x7d]" none true)), none,
        false, false⟩)
    (.inr ⟨_, rfl⟩)
  have atOnce : ¬EngineCommand.SavesOneByOne Surroundings.bare
      (.document (.save "books" "book" "[\x7b\"id\":1\x7d]" none true)) := by
    rintro ⟨index, docType, data, documents, same, -⟩
    simp at same
  have accepted := right.mpr (fun oneByOne => absurd oneByOne atOnce) yes
  exact ⟨yes, List.ne_nil_of_length_pos (sent ▸ Nat.one_pos), accepted⟩

/-- The only document is rejected, and the list is reported as saved. -/
theorem rejected_document_is_reported_as_saved :
    let transport := Transport.replying ⟨400, ""⟩
    let run := runWords transport () Surroundings.bare
      ["doc", "save", "books", "book", "--data", "[\x7b\"id\":1\x7d]"]
    run.result.SaysOk ∧ ∃ exchange ∈ run.exchanges, ¬exchange.Accepted transport := by
  intro transport run
  have yes : run.result.SaysOk := ⟨"saveDocList", by decide +kernel⟩
  have outcomes : run.exchanges.map Exchange.outcome =
      [.ok ⟨400, false, some "HTTP 400", .null⟩] := by decide +kernel
  refine ⟨yes, ?_⟩
  clear yes
  clear_value run
  obtain ⟨exchange, rest, exchanges, outcome, -⟩ := List.map_eq_cons_iff.mp outcomes
  refine ⟨exchange, by rw [exchanges]; exact List.mem_cons_self, ?_⟩
  intro accepted
  obtain ⟨answer, isAnswer, succeeded⟩ := accepted.succeeded
  rw [outcome] at isAnswer
  injection isAnswer with same
  rw [← same] at succeeded
  contradiction

end SearchKit
