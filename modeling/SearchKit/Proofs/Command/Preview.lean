import SearchKit.Proofs.Command.Reports
import SearchKit.Proofs.Engine.SearchPayload
import SearchKit.Proofs.Query.Compilation

/-!
Compiling requests as a preview of searching with them. Both commands read the same requests; the
one prints what the other sends, and where the one fails the other fails in the same way and sends
nothing.
-/

namespace SearchKit

set_option autoImplicit false

variable {σ τ : Type}

/-! ## What is printed -/

def previewEntry (uri : String) (body : Json) : Json :=
  .object [("uri", .string uri), ("body", body)]

def Search.preview (search : Search) : Json :=
  previewEntry (Action.search search).uri search.body

def CommandFailure.ofRefusal (refusal : Refusal) : CommandFailure :=
  .ofLibrary (.invalidRequest refusal)

theorem scope_of_compile_all {requests : List Request} {searches : List Search}
    (accepted : Request.compileAll requests = .ok searches) :
    List.Forall₂ (fun request search => search.indices = request.indices ∧
      search.types = request.types) requests searches := by
  rw [Request.compileAll, Checked.map_m_eq_ok] at accepted
  refine accepted.imp fun request search compiled => ?_
  obtain ⟨base, query, marking, -, -, rfl⟩ := (Request.compile_eq_ok request search).mp compiled
  exact ⟨rfl, rfl⟩

namespace Requests

theorem compiled_json_eq (request : Request) :
    compiledJson request = (request.compile.mapError .ofRefusal).map Search.preview := by
  unfold compiledJson
  cases request.compile <;> rfl

theorem compiled_many_eq (requests : List Request) :
    compiled (.many requests) =
      ((Request.compileAll requests).mapError .ofRefusal).map fun searches =>
        .array (searches.map Search.preview) := by
  have each : requests.mapM compiledJson =
      ((requests.mapM Request.compile).mapError .ofRefusal).map (List.map Search.preview) := by
    induction requests with
    | nil => rfl
    | cons request rest ih =>
        rw [List.mapM_cons, List.mapM_cons, ih, compiled_json_eq]
        cases request.compile with
        | error refusal => rfl
        | ok search => cases rest.mapM Request.compile <;> rfl
  rw [compiled, each, Request.compileAll]
  cases requests.mapM Request.compile <;> rfl

/-! ## What is sent -/

/-- What searching with requests gives and exchanges, by what compiling them gives. -/
inductive Foretold (requests : Requests) :
    Except CommandFailure Json → Except Failure Envelope → List Exchange → Prop where
  | refused (refusal : Refusal) :
      Foretold requests (.error (.ofRefusal refusal)) (.error (.invalidRequest refusal)) []
  | single (search : Search) (outcome : Outcome) {compiled : Except CommandFailure Json}
      {result : Except Failure Envelope}
      (shown : compiled = .ok search.preview ∨ compiled = .ok (.array [search.preview])) :
      Foretold requests compiled result [⟨.search search, outcome⟩]
  | several (list : List Request) (searches : List Search) (outcome : Outcome)
      {result : Except Failure Envelope} (given : requests = .many list) (more : 2 ≤ list.length)
      (accepted : Request.compileAll list = .ok searches) :
      Foretold requests (.ok (.array (searches.map Search.preview))) result
        [⟨.multiSearch searches, outcome⟩]
  | nothing (given : requests = .many []) :
      Foretold requests (.ok (.array [])) (.error (.invalidRequest .noRequests)) []

theorem foretold_single (client : Client σ) (request : Request) (state : σ) {requests : Requests}
    {compiled : Except CommandFailure Json}
    (shown : compiled = compiledJson request ∨ compiled = (compiledJson request).map fun entry =>
      .array [entry]) :
    let run := Operation.transcript client (Operation.searchRequest request) state
    Foretold requests compiled run.result run.exchanges := by
  intro run
  simp only [run, Operation.transcript_search_request, Operation.transcript_search,
    Operation.concluded]
  rw [compiled_json_eq] at shown
  cases accepted : request.compile with
  | error refusal =>
      have failed : compiled = .error (.ofRefusal refusal) := by
        rw [accepted] at shown
        exact shown.elim id id
      rw [failed]
      exact .refused refusal
  | ok search =>
      rw [accepted] at shown
      exact .single search _ shown

theorem foretold (client : Client σ) (requests : Requests) (state : σ) :
    let run := Operation.transcript client requests.search state
    Foretold requests requests.compiled run.result run.exchanges := by
  match requests with
  | .one request => exact foretold_single client request state (.inl rfl)
  | .many [] => exact .nothing rfl
  | .many [request] =>
      have single : compiled (.many [request]) = (compiledJson request).map fun entry =>
          .array [entry] := by
        rw [compiled, List.mapM_cons]
        cases compiledJson request <;> rfl
      exact foretold_single client request state (.inr single)
  | .many (first :: second :: rest) =>
      intro run
      have several : 2 ≤ (first :: second :: rest).length := by simp
      have ran : run = _ :=
        Operation.transcript_search_requests client (first :: second :: rest) several state
      rw [ran, compiled_many_eq]
      cases accepted : Request.compileAll (first :: second :: rest) with
      | error refusal => exact .refused refusal
      | ok searches =>
          simp only [Operation.transcript_search_all, Operation.concluded]
          exact .several _ searches _ rfl several accepted

namespace Foretold

variable {requests : Requests} {compiled : Except CommandFailure Json}
  {result : Except Failure Envelope} {exchanges : List Exchange}

theorem of_failure (foretold : Foretold requests compiled result exchanges)
    {failure : CommandFailure} (failed : compiled = .error failure) :
    result.mapError .ofLibrary = .error failure ∧ exchanges = [] := by
  cases foretold with
  | refused refusal =>
      injection failed with same
      exact ⟨congrArg Except.error same, rfl⟩
  | single search outcome shown => rcases shown with rfl | rfl <;> contradiction
  | several _ _ _ _ _ _ => contradiction
  | nothing _ => contradiction

theorem of_entry (foretold : Foretold requests compiled result exchanges) {uri : String}
    {body : Json} (shown : compiled = .ok (previewEntry uri body) ∨
      compiled = .ok (.array [previewEntry uri body])) :
    ∃ search outcome, exchanges = [⟨.search search, outcome⟩] ∧
      (Action.search search).uri = uri ∧ search.body = body := by
  cases foretold with
  | refused _ => rcases shown with none | none <;> contradiction
  | single search outcome own =>
      have same : search.preview = previewEntry uri body := by
        rcases own with rfl | rfl <;> rcases shown with shown | shown
        · exact Except.ok.inj shown
        · simp [Search.preview, previewEntry] at shown
        · simp [previewEntry] at shown
        · exact List.singleton_inj.mp (Json.array.inj (Except.ok.inj shown))
      simp only [Search.preview, previewEntry, Json.object.injEq, List.cons.injEq, Prod.mk.injEq,
        Json.string.injEq, true_and, and_true] at same
      exact ⟨search, outcome, rfl, same⟩
  | several list searches _ _ more accepted =>
      have counted := (scope_of_compile_all accepted).length_eq
      rcases shown with shown | shown
      · simp [previewEntry] at shown
      · have one := congrArg List.length (Json.array.inj (Except.ok.inj shown))
        rw [List.length_map, List.length_singleton] at one
        omega
  | nothing _ => rcases shown with none | none <;> simp [previewEntry] at none

theorem of_entries (foretold : Foretold requests compiled result exchanges) {entries : List Json}
    (shown : compiled = .ok (.array entries)) (more : 2 ≤ entries.length) :
    ∃ list searches outcome, requests = .many list ∧
      Request.compileAll list = .ok searches ∧ entries = searches.map Search.preview ∧
      exchanges = [⟨.multiSearch searches, outcome⟩] := by
  cases foretold with
  | refused _ => contradiction
  | single search outcome own =>
      rcases own with rfl | rfl
      · simp [Search.preview, previewEntry] at shown
      · rw [← Json.array.inj (Except.ok.inj shown), List.length_singleton] at more
        omega
  | several list searches outcome given _ accepted =>
      have listed := Json.array.inj (Except.ok.inj shown)
      exact ⟨list, searches, outcome, given, accepted, listed.symm, rfl⟩
  | nothing _ =>
      rw [← Json.array.inj (Except.ok.inj shown), List.length_nil] at more
      omega

theorem of_no_entries (foretold : Foretold requests compiled result exchanges)
    (shown : compiled = .ok (.array [])) :
    result = .error (.invalidRequest .noRequests) ∧ exchanges = [] := by
  cases foretold with
  | refused _ => contradiction
  | single search outcome own =>
      rcases own with rfl | rfl <;> simp [Search.preview, previewEntry] at shown
  | several list searches _ _ more accepted =>
      have counted := (scope_of_compile_all accepted).length_eq
      have none := List.map_eq_nil_iff.mp (Json.array.inj (Except.ok.inj shown))
      rw [none, List.length_nil] at counted
      omega
  | nothing _ => exact ⟨rfl, rfl⟩

/-- There are no other ways for a preview to look. -/
theorem shapes (foretold : Foretold requests compiled result exchanges) :
    (∃ failure, compiled = .error failure) ∨
      (∃ uri body, compiled = .ok (previewEntry uri body)) ∨
      ∃ entries, compiled = .ok (.array entries) ∧
        ∀ entry ∈ entries, ∃ uri body, entry = previewEntry uri body := by
  cases foretold with
  | refused _ => exact .inl ⟨_, rfl⟩
  | single search _ own =>
      rcases own with rfl | rfl
      · exact .inr (.inl ⟨_, _, rfl⟩)
      · exact .inr (.inr ⟨_, rfl, List.forall_mem_singleton.mpr ⟨_, _, rfl⟩⟩)
  | several _ _ _ _ _ _ =>
      exact .inr (.inr ⟨_, rfl, List.forall_mem_map.mpr fun _ _ => ⟨_, _, rfl⟩⟩)
  | nothing _ => exact .inr (.inr ⟨_, rfl, by simp⟩)

end Foretold

end Requests

/-! ## The two commands -/

theorem transcript_search_command (client : Client σ) (around : Surroundings) (argument : String)
    (state : σ) :
    Procedure.transcript client (EngineCommand.perform around (.search argument)) state =
      match Requests.read around argument with
      | .error failure => ⟨(.error failure, ""), [], [], state⟩
      | .ok requests =>
          let run := Operation.transcript client requests.search state
          { run with result := Procedure.ending (run.result.map Envelope.toJson) } := by
  rw [(EngineCommand.prepares_perform around _).transcript_eq, EngineCommand.prepare]
  cases Requests.read around argument with
  | error failure => rfl
  | ok requests => simp [Procedure.preparedTranscript, Pure.pure, Except.pure, Checked.ok_bind]

theorem batch_shows_entries {requests : List Request} {searches : List Search}
    (accepted : Request.compileAll requests = .ok searches) {text : String}
    (sent : (Action.multiSearch searches).body = some text) {position : Nat}
    (inside : position < requests.length) :
    ∃ uri body header members,
      (searches.map Search.preview)[position]? = some (previewEntry uri body) ∧
      (Action.linesOf text)[2 * position + 1]? = some body.text ∧
      (Action.linesOf text)[2 * position]? = some header ∧
      Json.ofText header = .ok (.object members) ∧
      Entries.find? "index" members = Search.scopeMember requests[position].indices ∧
      Entries.find? "type" members = Search.scopeMember requests[position].types := by
  have scopes := scope_of_compile_all accepted
  have there : position < searches.length := scopes.length_eq ▸ inside
  have scope : searches[position].indices = requests[position].indices ∧
      searches[position].types = requests[position].types := scopes.get inside there
  obtain ⟨bodyLine, header, members, headerLine, read, indices, types⟩ :=
    lines_of_batch_at sent there
  rw [scope.1] at indices
  rw [scope.2] at types
  refine ⟨(Action.search searches[position]).uri, searches[position].body, header, members, ?_,
    bodyLine, headerLine, read, indices, types⟩
  rw [List.getElem?_map, List.getElem?_eq_getElem there]
  rfl

section Commands

variable (transport : Transport τ) (wire : τ) (around : Surroundings) (argument : String)
  (settingsPath : Option String) (verbose asJson : Bool)

theorem compile_command_eq :
    (LocalCommand.compile argument).run around =
      (Requests.read around argument).bind fun requests => requests.compiled.map .document := by
  rw [LocalCommand.run]
  cases Requests.read around argument with
  | error failure => rfl
  | ok requests =>
      rw [Checked.ok_bind, Except.bind]
      cases requests.compiled <;> rfl

theorem search_without_client {failure : CommandFailure}
    (unconnected : Invocation.connect around
      ⟨.withEngine (.search argument), settingsPath, verbose, asJson⟩ = .error failure) :
    let searched := Invocation.run transport wire around
      ⟨.withEngine (.search argument), settingsPath, verbose, asJson⟩
    searched.result = .ofResult asJson (.error failure) ∧ searched.exchanges = [] := by
  simp only [Invocation.run, unconnected]
  exact ⟨trivial, trivial⟩

theorem search_with_client {client : HttpClient}
    (connected : Invocation.connect around
      ⟨.withEngine (.search argument), settingsPath, verbose, asJson⟩ = .ok client) :
    let searched := Invocation.run transport wire around
      ⟨.withEngine (.search argument), settingsPath, verbose, asJson⟩
    (∃ failure, Requests.read around argument = .error failure ∧
      searched.result = .ofResult asJson (.error failure) ∧ searched.exchanges = []) ∨
    ∃ requests result, Requests.read around argument = .ok requests ∧
      Requests.Foretold requests requests.compiled result searched.exchanges ∧
      searched.result = .ofResult asJson
        (((result.mapError .ofLibrary).map Envelope.toJson).map .document) := by
  have performed := transcript_search_command (HttpClient.through transport) around argument
    (client, wire)
  rw [Procedure.transcript] at performed
  intro searched
  simp only [searched, Invocation.run, connected, performed]
  cases Requests.read around argument with
  | error failure => exact .inl ⟨failure, rfl, rfl, rfl⟩
  | ok requests =>
      have foretold := Requests.foretold (HttpClient.through transport) requests (client, wire)
      refine .inr ⟨requests, _, rfl, foretold, ?_⟩
      dsimp only
      cases (Operation.transcript (HttpClient.through transport) requests.search
        (client, wire)).result <;> rfl

/-- Compiling shows exactly what searching sends. One entry, alone or in a list, is the one search
that is sent, and several entries are the one batch, two lines each, with the scope of its request
in front of each body. Where compiling fails searching fails in the same way, and for an empty list
only searching fails; nothing is sent then. Without a client searching fails before all that. -/
theorem compiling_previews_searching :
    let compiled := (LocalCommand.compile argument).run around
    let printed := Invocation.run transport wire around
      ⟨.onItsOwn (.compile argument), settingsPath, verbose, asJson⟩
    let searching : Invocation :=
      ⟨.withEngine (.search argument), settingsPath, verbose, asJson⟩
    let searched := searching.run transport wire around
    printed.result = .ofResult asJson compiled ∧ printed.exchanges = [] ∧
    (∀ failure, searching.connect around = .error failure →
      searched.result = .ofResult asJson (.error failure) ∧ searched.exchanges = []) ∧
    ∀ client, searching.connect around = .ok client →
      (∀ failure, compiled = .error failure →
        searched.result = .ofResult asJson (.error failure) ∧ searched.exchanges = []) ∧
      (∀ uri body, compiled = .ok (.document (previewEntry uri body)) ∨
          compiled = .ok (.document (.array [previewEntry uri body])) →
        ∃ search outcome, searched.exchanges = [⟨.search search, outcome⟩] ∧
          (Action.search search).uri = uri ∧
          (Action.search search).body = some body.text) ∧
      (∀ entries, compiled = .ok (.document (.array entries)) → 2 ≤ entries.length →
        ∃ requests searches outcome text,
          Requests.read around argument = .ok (.many requests) ∧
          searched.exchanges = [⟨.multiSearch searches, outcome⟩] ∧
          (Action.multiSearch searches).body = some text ∧
          requests.length = entries.length ∧
          (Action.linesOf text).length = 2 * entries.length ∧
          ∀ (position : Nat) (inside : position < requests.length),
            ∃ uri body header members, entries[position]? = some (previewEntry uri body) ∧
              (Action.linesOf text)[2 * position + 1]? = some body.text ∧
              (Action.linesOf text)[2 * position]? = some header ∧
              Json.ofText header = .ok (.object members) ∧
              Entries.find? "index" members = Search.scopeMember requests[position].indices ∧
              Entries.find? "type" members = Search.scopeMember requests[position].types) ∧
      (compiled = .ok (.document (.array [])) →
        searched.result = .ofResult asJson (.error (.ofLibrary (.invalidRequest .noRequests))) ∧
        searched.exchanges = []) ∧
      ((∃ failure, compiled = .error failure) ∨
        (∃ uri body, compiled = .ok (.document (previewEntry uri body))) ∨
        ∃ entries, compiled = .ok (.document (.array entries)) ∧
          ∀ entry ∈ entries, ∃ uri body, entry = previewEntry uri body) := by
  intro compiled printed searching searched
  have compiledEq : compiled = _ := compile_command_eq around argument
  refine ⟨rfl, rfl, fun failure unconnected => search_without_client transport wire around argument
    settingsPath verbose asJson unconnected, fun client connected => ?_⟩
  rcases search_with_client transport wire around argument settingsPath verbose asJson connected with
    ⟨failure, read, failed, unsent⟩ | ⟨requests, result, read, foretold, finished⟩
  · rw [read] at compiledEq
    have compiledFails : compiled = .error failure := compiledEq
    rw [compiledFails]
    refine ⟨?_, ?_, ?_, ?_, .inl ⟨failure, rfl⟩⟩
    · rintro other same
      injection same with same
      exact same ▸ ⟨failed, unsent⟩
    · rintro uri body (none | none) <;> contradiction
    · rintro entries none
      contradiction
    · rintro none
      contradiction
  · rw [read] at compiledEq
    have compiledMap : compiled = requests.compiled.map .document := compiledEq
    -- What is printed is what the requests compile to, so the cases of `Foretold` apply to it.
    have shows (json : Json) : compiled = .ok (.document json) ↔ requests.compiled = .ok json := by
      rw [compiledMap, Checked.map_eq_ok]
      simp
    have fails (failure : CommandFailure) :
        compiled = .error failure ↔ requests.compiled = .error failure := by
      rw [compiledMap]
      cases requests.compiled <;> simp [Except.map]
    simp only [shows, fails]
    refine ⟨?_, ?_, ?_, ?_, foretold.shapes⟩
    · intro failure failed
      obtain ⟨failed, unsent⟩ := foretold.of_failure failed
      rw [failed] at finished
      exact ⟨finished, unsent⟩
    · intro uri body shown
      obtain ⟨search, outcome, sent, named, rfl⟩ := foretold.of_entry shown
      exact ⟨search, outcome, sent, named, rfl⟩
    · intro entries shown more
      obtain ⟨list, searches, outcome, rfl, accepted, rfl, sent⟩ := foretold.of_entries shown more
      have counted := (scope_of_compile_all accepted).length_eq
      have nonempty : searches ≠ [] := by
        rintro rfl
        contradiction
      refine ⟨list, searches, outcome, _, read, sent, rfl, ?_, ?_, fun position inside =>
        batch_shows_entries accepted rfl inside⟩
      · rw [counted, List.length_map]
      · rw [length_lines_of_batch rfl nonempty, List.length_map]
    · intro shown
      obtain ⟨failed, unsent⟩ := foretold.of_no_entries shown
      rw [failed] at finished
      exact ⟨finished, unsent⟩

end Commands

def Surroundings.withInput (text : String) : Surroundings :=
  ⟨fun _ => .error .notFound, .ok text, none, fun _ => "TOML parse error"⟩

def booksRequest : Request := .ofRaw "\x7b\"size\":1\x7d" ["books"] []

def titleRequest : Request :=
  { Request.empty with
    types := ["a", "b"]
    clauses := ⟨[⟨"title", some (.string "Rust"), .term⟩], [], []⟩ }

theorem two_requests_are_previewed :
    let around := Surroundings.withInput (Json.array [booksRequest.toJson, titleRequest.toJson]).text
    let searched := Invocation.run Transport.unreachable () around
      ⟨.withEngine (.search "-"), none, false, false⟩
    ∃ entries searches outcome text,
      (LocalCommand.compile "-").run around = .ok (.document (.array entries)) ∧
        entries.length = 2 ∧ searched.exchanges = [⟨.multiSearch searches, outcome⟩] ∧
        (Action.multiSearch searches).body = some text ∧ (Action.linesOf text).length = 4 := by
  intro around searched
  have read : Requests.read around "-" = .ok (.many [booksRequest, titleRequest]) := by
    decide +kernel
  obtain ⟨searches, accepted⟩ := Checked.exists_of_is_ok
    (by decide +kernel : (Request.compileAll [booksRequest, titleRequest]).isOk = true)
  have counted := (scope_of_compile_all accepted).length_eq
  have compiled : (LocalCommand.compile "-").run around =
      .ok (.document (.array (searches.map Search.preview))) := by
    rw [compile_command_eq, read, Except.bind, Requests.compiled_many_eq, accepted]
    rfl
  obtain ⟨client, connected⟩ := Checked.exists_of_is_ok
    (by decide +kernel : (Invocation.connect around
      ⟨.withEngine (.search "-"), none, false, false⟩).isOk = true)
  obtain ⟨-, -, -, previewed⟩ := compiling_previews_searching Transport.unreachable () around "-"
    none false false
  obtain ⟨-, -, several, -⟩ := previewed client connected
  have two : (searches.map Search.preview).length = 2 := by
    rw [List.length_map, ← counted]
    rfl
  obtain ⟨requests, sent, outcome, text, -, exchanges, body, -, lines, -⟩ :=
    several _ compiled two.ge
  rw [two] at lines
  exact ⟨_, sent, outcome, text, compiled, two, exchanges, body, lines⟩

end SearchKit
