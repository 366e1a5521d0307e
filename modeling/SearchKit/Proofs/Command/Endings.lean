import SearchKit.Proofs.Command.Preview
import SearchKit.Proofs.Engine.Addressing
import SearchKit.Proofs.Json.Layout

/-!
How commands end. A command reads its files and arguments and then runs one operation of the
library. What fails first on the way is what is reported, as a text or as a document, and nothing
else is printed, however much the engine has done by then.
-/

namespace SearchKit

set_option autoImplicit false

variable {σ τ α : Type}

/-! ## What fails before the library is asked -/

/-- Only arguments fail, if anything does. -/
def ByArguments (checked : Except CommandFailure α) : Prop :=
  ∀ failure, checked = .error failure → ∃ fault, failure = .ofArguments fault

section Arguments

variable {β : Type}

theorem by_arguments_ok (value : α) : ByArguments (.ok value) := by
  intro failure failed
  contradiction

theorem by_arguments_error (fault : ArgumentFault) :
    ByArguments (.error (.ofArguments fault) : Except CommandFailure α) := by
  rintro failure ⟨⟩
  exact ⟨fault, rfl⟩

theorem by_arguments_map_error {ε : Type} (checked : Except ε α) (fault : ε → ArgumentFault) :
    ByArguments (checked.mapError fun cause => .ofArguments (fault cause)) := by
  cases checked with
  | error cause => exact by_arguments_error (fault cause)
  | ok value => exact by_arguments_ok value

theorem by_arguments_bind {checked : Except CommandFailure α}
    {next : α → Except CommandFailure β} (first : ByArguments checked)
    (second : ∀ value, ByArguments (next value)) : ByArguments (checked >>= next) := by
  cases checked with
  | error failure =>
      obtain ⟨fault, rfl⟩ := first failure rfl
      exact by_arguments_error fault
  | ok value => exact second value

theorem by_arguments_inline_text (around : Surroundings) (argument : String) :
    ByArguments (around.inlineText argument) := by
  unfold Surroundings.inlineText
  split
  · exact by_arguments_map_error _ _
  · exact by_arguments_ok _

theorem by_arguments_inline_json (around : Surroundings) (argument : String) :
    ByArguments (around.inlineJson argument) :=
  by_arguments_bind (by_arguments_inline_text around argument) fun _ => by_arguments_map_error _ _

theorem by_arguments_inline_option (around : Surroundings) (argument : Option String) :
    ByArguments (around.inlineJson? argument) := by
  cases argument with
  | none => exact by_arguments_ok none
  | some argument =>
      have read := by_arguments_inline_json around argument
      have shape : around.inlineJson? (some argument) =
          around.inlineJson argument >>= fun json => .ok (some json) := by
        rw [Surroundings.inlineJson?]
        cases around.inlineJson argument <;> rfl
      rw [shape]
      exact by_arguments_bind read fun json => by_arguments_ok _

theorem by_arguments_read (around : Surroundings) (argument : String) :
    ByArguments (Requests.read around argument) := by
  refine by_arguments_bind ?_ fun text => ?_
  · unfold Surroundings.requestText
    split
    · exact by_arguments_map_error _ _
    · exact by_arguments_map_error _ _
  · split
    · exact by_arguments_error _
    · exact by_arguments_map_error _ _

theorem by_arguments_prepare_save (index docType : String) (id : Option String) (bulk : Bool)
    (data : Json) : ByArguments (prepareSave index docType id bulk data) := by
  cases data with
  | array documents =>
      rw [prepareSave]
      split
      · exact by_arguments_error _
      · split
        · exact by_arguments_ok _
        · exact by_arguments_ok _
  | null | bool _ | number _ | string _ | object _ => exact by_arguments_ok _

theorem by_arguments_prepare (around : Surroundings) (command : EngineCommand) :
    ByArguments (command.prepare around) := by
  match command with
  | .search argument =>
      exact by_arguments_bind (by_arguments_read around argument) fun _ => by_arguments_ok _
  | .raw wanted =>
      exact by_arguments_bind (by_arguments_inline_text around wanted.query) fun _ =>
        by_arguments_ok _
  | .get _ | .multiGet _ _ _ => exact by_arguments_ok _
  | .index (.create _ settings _ mappings) =>
      exact by_arguments_bind (by_arguments_inline_option around settings) fun _ =>
        by_arguments_bind (by_arguments_inline_option around mappings) fun _ => by_arguments_ok _
  | .index (.exists _) | .index (.delete _) => exact by_arguments_ok _
  | .index (.mapping _ _ argument) | .document (.update _ argument) =>
      exact by_arguments_bind (by_arguments_inline_json around argument) fun _ => by_arguments_ok _
  | .document (.save name docType data id bulk) =>
      exact by_arguments_bind (by_arguments_inline_json around data) fun value =>
        by_arguments_prepare_save name docType id bulk value
  | .document (.delete _) => exact by_arguments_ok _
  | .document (.deleteByQuery _ _ query) =>
      exact by_arguments_bind (by_arguments_inline_text around query) fun _ => by_arguments_ok _

end Arguments

/-! ## Endings -/

/-- What the caller is told: what was asked for, or what failed, with the failure of the library
that is the cause when there is one. -/
inductive Ending where
  | printed (json : Json)
  | failed (cause : Option Failure) (text : String)

def failureDocument (cause : Option Failure) (text : String) : Json :=
  .object [("ok", .bool false),
    ("error", .object [("code", .string ((cause.map Failure.code).getD "error")),
      ("message", .string text)])]

/-- An ending as it is reported: a document and nothing else, or the text of a failure. -/
def Ending.report (asJson : Bool) : Ending → Report
  | .printed json => ⟨0, json.indentedText ++ "\n", ""⟩
  | .failed cause text =>
      if asJson then ⟨0, (failureDocument cause text).indentedText ++ "\n", ""⟩
      else ⟨1, "", "error: " ++ text ++ "\n"⟩

def Ending.ofResult : Except CommandFailure Json → Ending
  | .ok json => .printed json
  | .error failure => .failed failure.library? failure.message

theorem report_eq (asJson : Bool) (result : Except CommandFailure Json) :
    Report.ofResult asJson (result.map .document) = (Ending.ofResult result).report asJson := by
  cases result with
  | ok json => rfl
  | error failure =>
      have told : (Status.failed failure.code failure.message).toJson =
          failureDocument failure.library? failure.message := by cases failure <;> rfl
      simp only [Except.map, Report.ofResult, Report.ofFailure, String.empty_append, told,
        Output.text, Ending.ofResult, Ending.report]

theorem plain_failure_document (cause : Option Failure) (text : String) :
    Json.Plain 2 (failureDocument cause text) := by
  have two {depth : Nat} {name other : String} {first second : Json} (different : name ≠ other)
      (plainFirst : Json.Plain depth first) (plainSecond : Json.Plain depth second) :
      Json.Plain (depth + 1) (.object [(name, first), (other, second)]) := by
    refine .object (by simpa [Entries.names] using different) ?_
    simpa using ⟨plainFirst, plainSecond⟩
  have flag : Json.Plain 1 (.bool false) := ⟨Json.fits_bool 1 false, rfl⟩
  exact two (by decide) flag (two (by decide) (.string 0 _) (.string 0 text))

namespace Invocation

/-- A command of the engine for which the settings are loaded and a client is built from them. -/
structure Reaches (around : Surroundings) (invocation : Invocation) (command : EngineCommand)
    (client : HttpClient) : Prop where
  asked : invocation.command = .withEngine command
  built : ∃ settings, invocation.settings around = .ok settings ∧
    HttpClient.ofSettings settings = .ok client

/-- The ways for an invocation to end, with what is exchanged until then. A command of the engine
loads the settings, builds a client from them, reads its arguments and runs its operation; the
command that compiles reads requests and compiles them. -/
inductive Ends (transport : Transport τ) (wire : τ) (around : Surroundings)
    (invocation : Invocation) :
    Ending → List Exchange → Prop
  | settingsUnread {command : EngineCommand} {failure : Failure}
      (asked : invocation.command = .withEngine command)
      (unread : invocation.settings around = .error failure) :
      Ends transport wire around invocation (.failed (some failure) failure.message) []
  | clientUnbuilt {command : EngineCommand} {settings : Settings} {fault : ConfigurationFault}
      (asked : invocation.command = .withEngine command)
      (read : invocation.settings around = .ok settings)
      (unbuilt : HttpClient.ofSettings settings = .error fault) :
      Ends transport wire around invocation
        (.failed (some (.configuration fault)) "build search client") []
  | argumentsUnread {command : EngineCommand} {client : HttpClient} {fault : ArgumentFault}
      (reaches : invocation.Reaches around command client)
      (unread : command.prepare around = .error (.ofArguments fault)) :
      Ends transport wire around invocation (.failed none fault.message) []
  | operationFailed {command : EngineCommand} {client : HttpClient} {operation : Operation Json}
      {failure : Failure} (reaches : invocation.Reaches around command client)
      (prepared : command.prepare around = .ok operation)
      (failed : (Operation.transcript (HttpClient.through transport) operation
        (client, wire)).result = .error failure) :
      Ends transport wire around invocation (.failed (some failure) failure.message)
        (Operation.transcript (HttpClient.through transport) operation (client, wire)).exchanges
  | answered {command : EngineCommand} {client : HttpClient} {operation : Operation Json}
      {json : Json} (reaches : invocation.Reaches around command client)
      (prepared : command.prepare around = .ok operation)
      (given : (Operation.transcript (HttpClient.through transport) operation
        (client, wire)).result = .ok json) :
      Ends transport wire around invocation (.printed json)
        (Operation.transcript (HttpClient.through transport) operation (client, wire)).exchanges
  | requestsUnread {argument : String} {fault : ArgumentFault}
      (asked : invocation.command = .onItsOwn (.compile argument))
      (unread : Requests.read around argument = .error (.ofArguments fault)) :
      Ends transport wire around invocation (.failed none fault.message) []
  | requestsRefused {argument : String} {requests : Requests} {refusal : Refusal}
      (asked : invocation.command = .onItsOwn (.compile argument))
      (read : Requests.read around argument = .ok requests)
      (refused : requests.compiled = .error (.ofRefusal refusal)) :
      Ends transport wire around invocation
        (.failed (some (.invalidRequest refusal)) (Failure.invalidRequest refusal).message) []
  | compiled {argument : String} {requests : Requests} {json : Json}
      (asked : invocation.command = .onItsOwn (.compile argument))
      (read : Requests.read around argument = .ok requests)
      (given : requests.compiled = .ok json) :
      Ends transport wire around invocation (.printed json) []

section Ends

variable {around : Surroundings} {invocation : Invocation}

theorem connect_of_reaches {command : EngineCommand} {client : HttpClient}
    (reaches : invocation.Reaches around command client) :
    invocation.connect around = .ok client := by
  obtain ⟨settings, loaded, built⟩ := reaches.built
  rw [connect, loaded]
  simp [Except.mapError, Bind.bind, Except.bind, built]

variable (transport : Transport τ) (wire : τ)

def Gives (around : Surroundings) (invocation : Invocation) (ending : Ending)
    (exchanges : List Exchange) : Prop :=
  (invocation.run transport wire around).exchanges = exchanges ∧
    (invocation.run transport wire around).result = ending.report invocation.asJson

theorem gives_of_unconnected {command : EngineCommand} {failure : CommandFailure}
    (asked : invocation.command = .withEngine command)
    (unconnected : invocation.connect around = .error failure) :
    Gives transport wire around invocation (.ofResult (.error failure)) [] := by
  rw [Gives, ← report_eq, run, asked]
  dsimp only
  rw [unconnected]
  exact ⟨rfl, rfl⟩

theorem gives_of_unread {command : EngineCommand} {client : HttpClient} {failure : CommandFailure}
    (reaches : invocation.Reaches around command client)
    (unread : command.prepare around = .error failure) :
    Gives transport wire around invocation (.ofResult (.error failure)) [] := by
  have performed := (command.prepares_perform around).transcript_eq (HttpClient.through transport)
    (client, wire)
  rw [Procedure.transcript, unread] at performed
  simp only [Gives, ← report_eq, run, reaches.asked, connect_of_reaches reaches, performed]
  exact ⟨rfl, rfl⟩

theorem gives_of_operation {command : EngineCommand} {client : HttpClient}
    {operation : Operation Json} (reaches : invocation.Reaches around command client)
    (prepared : command.prepare around = .ok operation) {result : Except Failure Json}
    (ended : (Operation.transcript (HttpClient.through transport) operation (client, wire)).result =
      result) :
    Gives transport wire around invocation (.ofResult (result.mapError .ofLibrary))
      (Operation.transcript (HttpClient.through transport) operation (client, wire)).exchanges := by
  have performed := (command.prepares_perform around).transcript_eq (HttpClient.through transport)
    (client, wire)
  rw [Procedure.transcript, prepared] at performed
  simp only [Gives, ← report_eq, run, reaches.asked, connect_of_reaches reaches, performed,
    Procedure.preparedTranscript, ended]
  refine ⟨trivial, ?_⟩
  cases result <;> rfl

variable (around) in
theorem gives_of_compile {argument : String}
    (asked : invocation.command = .onItsOwn (.compile argument)) :
    Gives transport wire around invocation
      (.ofResult ((Requests.read around argument).bind Requests.compiled)) [] := by
  have compiled := compile_command_eq around argument
  simp only [Gives, ← report_eq, run, asked, compiled]
  cases Requests.read around argument with
  | error failure => exact ⟨trivial, rfl⟩
  | ok requests => exact ⟨trivial, rfl⟩

theorem gives_of_ends {ending : Ending} {exchanges : List Exchange}
    (ends : invocation.Ends transport wire around ending exchanges) :
    Gives transport wire around invocation ending exchanges := by
  -- Each lemma is applied before it is compared with the goal: its failure is known by then.
  cases ends with
  | @settingsUnread command failure asked unread =>
      have unconnected : invocation.connect around = .error (.ofLibrary failure) := by
        rw [connect, unread]
        rfl
      have given := gives_of_unconnected transport wire asked unconnected
      exact given
  | @clientUnbuilt command settings fault asked read unbuilt =>
      have unconnected : invocation.connect around = .error (.noClient fault) := by
        rw [connect, read]
        simp [Except.mapError, Bind.bind, Except.bind, unbuilt]
      have given := gives_of_unconnected transport wire asked unconnected
      exact given
  | argumentsUnread reaches unread =>
      have given := gives_of_unread transport wire reaches unread
      exact given
  | operationFailed reaches prepared failed =>
      have given := gives_of_operation transport wire reaches prepared failed
      exact given
  | answered reaches prepared answer =>
      have given := gives_of_operation transport wire reaches prepared answer
      exact given
  | requestsUnread asked unread =>
      have given := gives_of_compile around transport wire asked
      rw [unread] at given
      exact given
  | requestsRefused asked read refused =>
      have given := gives_of_compile around transport wire asked
      rw [read, Except.bind, refused] at given
      exact given
  | compiled asked read shown =>
      have given := gives_of_compile around transport wire asked
      rw [read, Except.bind, shown] at given
      exact given

theorem refused_of_compiled {requests : Requests} {failure : CommandFailure}
    (failed : requests.compiled = .error failure) : ∃ refusal, failure = .ofRefusal refusal := by
  cases requests with
  | one request =>
      rw [Requests.compiled, Requests.compiled_json_eq] at failed
      cases compiled : request.compile with
      | error refusal =>
          rw [compiled] at failed
          injection failed with same
          exact ⟨refusal, same.symm⟩
      | ok search =>
          rw [compiled] at failed
          contradiction
  | many requests =>
      rw [Requests.compiled_many_eq] at failed
      cases compiled : Request.compileAll requests with
      | error refusal =>
          rw [compiled] at failed
          injection failed with same
          exact ⟨refusal, same.symm⟩
      | ok searches =>
          rw [compiled] at failed
          contradiction

theorem exists_ends (around : Surroundings) (invocation : Invocation)
    (noScript : ∀ shell, invocation.command ≠ .onItsOwn (.completions shell)) :
    ∃ ending exchanges, Ends transport wire around invocation ending exchanges := by
  cases asked : invocation.command with
  | onItsOwn command =>
      cases command with
      | completions shell => exact absurd asked (noScript shell)
      | compile argument =>
          cases read : Requests.read around argument with
          | error failure =>
              obtain ⟨fault, rfl⟩ := by_arguments_read around argument failure read
              exact ⟨_, _, .requestsUnread asked read⟩
          | ok requests =>
              cases compiled : requests.compiled with
              | error failure =>
                  obtain ⟨refusal, rfl⟩ := refused_of_compiled compiled
                  exact ⟨_, _, .requestsRefused asked read compiled⟩
              | ok json => exact ⟨_, _, .compiled asked read compiled⟩
  | withEngine command =>
      cases loaded : invocation.settings around with
      | error failure => exact ⟨_, _, .settingsUnread asked loaded⟩
      | ok settings =>
          cases built : HttpClient.ofSettings settings with
          | error fault => exact ⟨_, _, .clientUnbuilt asked loaded built⟩
          | ok client =>
              have reaches : invocation.Reaches around command client :=
                ⟨asked, settings, loaded, built⟩
              cases prepared : command.prepare around with
              | error failure =>
                  obtain ⟨fault, rfl⟩ := by_arguments_prepare around command failure prepared
                  exact ⟨_, _, .argumentsUnread reaches prepared⟩
              | ok operation =>
                  cases ended : (Operation.transcript (HttpClient.through transport) operation
                      (client, wire)).result with
                  | error failure => exact ⟨_, _, .operationFailed reaches prepared ended⟩
                  | ok json => exact ⟨_, _, .answered reaches prepared ended⟩

end Ends

end Invocation

/-- The report is a document and nothing else: its indented text with a line break behind it, which
is a text of no other document. -/
structure Report.Prints (report : Report) (json : Json) : Prop where
  whole : report = ⟨0, json.indentedText ++ "\n", ""⟩
  laid : ∀ inside, Json.Laid json inside ↔ report.output = String.ofList inside ++ "\n"
  only : ∀ document, Json.IsTextOf report.output document ↔ document = json

theorem Report.prints_document (json : Json) :
    (Report.mk 0 (json.indentedText ++ "\n") "").Prints json :=
  ⟨rfl, json.laid_iff_indented_text, json.is_text_of_indented_iff⟩

/-- Every command but that for a script ends in one of the ways that `Ends` lists, and then the
caller finds one indented document and nothing else, or, without the option for JSON, the text of
the failure and no document. With that option a failure is a document too, which tells the code of
the library's failure, wrapped or not, and a common code for all others. A reader that goes deep
enough reads a printed document back, unless it has floating point numbers or a name twice. A
command of the engine that fails has printed nothing by then. -/
theorem commands_print_all_or_nothing (transport : Transport τ) (wire : τ) (around : Surroundings)
    {words : List String} {invocation : Invocation} (read : Arguments.read words = .ok invocation)
    (noScript : ∀ shell, invocation.command ≠ .onItsOwn (.completions shell)) :
    let run := runWords transport wire around words
    (∃ ending, invocation.Ends transport wire around ending run.exchanges) ∧
    (∀ json exchanges, invocation.Ends transport wire around (.printed json) exchanges →
      run.exchanges = exchanges ∧ run.result.Prints json ∧ ∀ depth, Json.Plain depth json →
        Json.readDocument depth run.result.output.toList = .ok json) ∧
    (∀ cause text exchanges, invocation.Ends transport wire around (.failed cause text) exchanges →
      run.exchanges = exchanges ∧
      (invocation.asJson = false → run.result = ⟨1, "", "error: " ++ text ++ "\n"⟩) ∧
      (invocation.asJson = true →
        let document := Json.object [("ok", .bool false),
          ("error", .object [("code", .string ((cause.map Failure.code).getD "error")),
            ("message", .string text)])]
        run.result.Prints document ∧ Json.ofText run.result.output = .ok document)) ∧
    ∀ command client failure printed, invocation.Reaches around command client →
      (Procedure.transcript (HttpClient.through transport) (command.perform around)
        (client, wire)).result = (.error failure, printed) → printed = "" := by
  have invoked : runWords transport wire around words = invocation.run transport wire around := by
    rw [runWords, read]
  intro run
  simp only [run, invoked]
  refine ⟨?_, ?_, ?_, ?_⟩
  · obtain ⟨ending, exchanges, ends⟩ := invocation.exists_ends transport wire around noScript
    obtain ⟨sent, -⟩ := Invocation.gives_of_ends transport wire ends
    rw [sent]
    exact ⟨ending, ends⟩
  · intro json exchanges ends
    obtain ⟨sent, told⟩ := Invocation.gives_of_ends transport wire ends
    rw [told]
    exact ⟨sent, Report.prints_document json, fun depth plain =>
      Json.read_document_of_text plain json.indented_is_text_of⟩
  · intro cause text exchanges ends
    obtain ⟨sent, told⟩ := Invocation.gives_of_ends transport wire ends
    refine ⟨sent, ?_, ?_⟩
    · intro asText
      rw [told, Ending.report, asText]
      rfl
    · intro asJson
      rw [asJson] at told
      rw [told]
      have plain := (plain_failure_document cause text).mono (by decide : 2 ≤ Json.nestingLimit)
      exact ⟨Report.prints_document _,
        Json.of_text_of_is_text plain (Json.indented_is_text_of _)⟩
  · intro command client failure printed _ failed
    exact (command.prepares_perform around).printed_nothing _ _ failed

/-! ## Two runs -/

def Transport.answeringOnce (reply : HttpReply) : Transport Bool :=
  ⟨fun fresh request =>
    (if fresh then .ok reply else .error (.notSent request.url.text), false)⟩

namespace Invocation

def numbered : List Json := [Json.single "id" (.ofUInt64 1), Json.single "id" (.ofUInt64 2)]

def savesNumbered : Invocation :=
  ⟨.withEngine (.document
    (.save "books" "book" "[\x7b\"id\":1\x7d,\x7b\"id\":2\x7d]" none false)), none, false, true⟩

theorem saving_ends :
    Ends (Transport.answeringOnce ⟨201, "\x7b\x7d"⟩) true Surroundings.bare savesNumbered
      (.failed
        (some (.operationFailed "saveDoc"
          "HTTP error: error sending request for url (http://localhost:9200/books/book/2)"))
        ("saveDoc failed! HTTP error: error sending request for url "
          ++ "(http://localhost:9200/books/book/2)"))
      (Operation.transcript (HttpClient.through (Transport.answeringOnce ⟨201, "\x7b\x7d"⟩))
        (statusOf "saveDocList" do Operation.saveList "books" "book" numbered; return true)
        (HttpClient.localClient, true)).exchanges := by
  have data : Surroundings.bare.inlineJson "[\x7b\"id\":1\x7d,\x7b\"id\":2\x7d]" =
      .ok (.array numbered) := by decide +kernel
  have prepared : EngineCommand.prepare Surroundings.bare (.document
      (.save "books" "book" "[\x7b\"id\":1\x7d,\x7b\"id\":2\x7d]" none false)) =
      prepareSave "books" "book" none false (.array numbered) := by
    rw [EngineCommand.prepare, DocumentCommand.prepare, data]
    rfl
  have failed : (Operation.transcript
      (HttpClient.through (Transport.answeringOnce ⟨201, "\x7b\x7d"⟩))
      (statusOf "saveDocList" do Operation.saveList "books" "book" numbered; return true)
      (HttpClient.localClient, true)).result = .error (.operationFailed "saveDoc"
        "HTTP error: error sending request for url (http://localhost:9200/books/book/2)") := by
    decide +kernel
  exact .operationFailed ⟨rfl, Settings.default, by decide +kernel,
    HttpClient.client_of_default_settings⟩ prepared failed

def looksUp : Invocation :=
  ⟨.withEngine (.multiGet "books" "book" ["1", "2"]), none, false, false⟩

def bothFound : HttpReply :=
  ⟨200, "\x7b\"docs\":[\x7b\"_source\":\x7b\"id\":1\x7d\x7d,"
    ++ "\x7b\"_source\":\x7b\"id\":2\x7d\x7d]\x7d"⟩

theorem looking_up_ends :
    ∃ exchanges, Ends (Transport.replying bothFound) () Surroundings.bare looksUp
      (.printed (.array numbered)) exchanges := by
  have prepared : EngineCommand.prepare Surroundings.bare (.multiGet "books" "book" ["1", "2"]) =
      .ok (Json.array <$> Operation.multiGet "books" "book" ["1", "2"]) := rfl
  have given : (Operation.transcript (HttpClient.through (Transport.replying bothFound))
      (Json.array <$> Operation.multiGet "books" "book" ["1", "2"])
      (HttpClient.localClient, ())).result = .ok (.array numbered) := by decide +kernel
  exact ⟨_, .answered ⟨rfl, Settings.default, by decide +kernel,
    HttpClient.client_of_default_settings⟩ prepared given⟩

end Invocation

open Invocation in
theorem runs_print_one_document :
    (let run := runWords (Transport.answeringOnce ⟨201, "\x7b\x7d"⟩) true Surroundings.bare
      ["--json", "doc", "save", "books", "book", "--data",
        "[\x7b\"id\":1\x7d,\x7b\"id\":2\x7d]"]
    run.exchanges.length = 2 ∧ run.result.exit = 0 ∧ run.result.errors = "" ∧
      Json.ofText run.result.output = .ok (.object [("ok", .bool false),
        ("error", .object [("code", .string "operation_failed"),
          ("message", .string ("saveDoc failed! HTTP error: error sending request for url "
            ++ "(http://localhost:9200/books/book/2)"))])])) ∧
    let run := runWords (Transport.replying bothFound) () Surroundings.bare
      ["mget", "books", "book", "1", "2"]
    run.result.Prints (.array numbered) ∧
      Json.readDocument 2 run.result.output.toList = .ok (.array numbered) := by
  constructor
  · obtain ⟨-, -, reported, -⟩ := commands_print_all_or_nothing
      (Transport.answeringOnce ⟨201, "\x7b\x7d"⟩) true Surroundings.bare
      (by decide +kernel : Arguments.read ["--json", "doc", "save", "books", "book", "--data",
        "[\x7b\"id\":1\x7d,\x7b\"id\":2\x7d]"] = .ok savesNumbered)
      (by simp [savesNumbered])
    obtain ⟨sent, -, asDocument⟩ := reported _ _ _ saving_ends
    obtain ⟨printed, document⟩ := asDocument rfl
    refine ⟨?_, ?_, ?_, document⟩
    · rw [sent]
      decide +kernel
    · rw [printed.whole]
    · rw [printed.whole]
  · obtain ⟨exchanges, ends⟩ := looking_up_ends
    obtain ⟨-, reported, -, -⟩ := commands_print_all_or_nothing (Transport.replying bothFound) ()
      Surroundings.bare
      (by decide +kernel : Arguments.read ["mget", "books", "book", "1", "2"] = .ok looksUp)
      (by simp [looksUp])
    obtain ⟨-, printed, back⟩ := reported _ _ ends
    have plain : Json.Plain 2 (.array numbered) := by
      apply Json.Plain.array
      simp only [numbered, List.forall_mem_cons, List.not_mem_nil, false_implies, implies_true,
        and_true]
      exact ⟨.single "id" (.of_uint64 0 1), .single "id" (.of_uint64 0 2)⟩
    exact ⟨printed, back 2 plain⟩

end SearchKit
