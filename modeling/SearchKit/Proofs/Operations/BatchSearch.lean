import SearchKit.Proofs.Engine.Replies
import SearchKit.Proofs.Operations.Searching

/-!
A batch of requests against the same requests one by one, on any engine that answers each search by
itself. The batch succeeds when each request alone does, and then it holds what they found.
-/

namespace SearchKit

set_option autoImplicit false

/-- An engine that answers every search by a success or by a failure. -/
structure SearchEngine where
  reply : Search → Reply
  definite : ∀ search, (reply search).Succeeds ∨ (reply search).Fails

def SearchEngine.batchReply (engine : SearchEngine) (searches : List Search) : Reply :=
  ⟨200, .single "responses" (.array (searches.map fun search => (engine.reply search).json))⟩

/-- A client that hands searches and batches to the engine, in whatever state it is. -/
structure SearchEngine.ServedBy {σ : Type} (engine : SearchEngine) (client : Client σ) :
    Prop where
  single : ∀ state search,
    (client.execute state (.search search)).outcome = .ok (engine.reply search).answer
  batch : ∀ state searches,
    (client.execute state (.multiSearch searches)).outcome =
      .ok (engine.batchReply searches).answer

namespace Envelope

theorem gather_additional (envelope : Envelope) (pairs : List (Json × Request)) :
    pairs.foldl
      (fun gathered pair =>
        gathered.pushAdditional (Hits.documents pair.2.highlightField pair.1)) envelope =
      if pairs = [] then envelope
      else { envelope with
        additional := some (envelope.additional.getD [] ++
          pairs.flatMap fun pair => (ofAnswer pair.2 pair.1).data) } := by
  induction pairs generalizing envelope with
  | nil => simp
  | cons pair rest ih =>
      simp only [List.foldl_cons, ih]
      cases rest <;> simp [pushAdditional, ofAnswer]

theorem of_answers_cons (json second : Json) (answers : List Json) (request other : Request)
    (requests : List Request) :
    ofAnswers (json :: second :: answers) (request :: other :: requests) =
      { ofAnswer request json with
        additional := some (((second :: answers).zip (other :: requests)).flatMap fun pair =>
          (ofAnswer pair.2 pair.1).data) } := by
  simp only [ofAnswers, List.zip_cons_cons, ofPairs, gather_additional]
  simp [ofAnswer]

end Envelope

namespace SearchEngine

open Operation

variable {σ : Type}

/-- A request finds its search's reply when it compiles and the engine succeeds with it. -/
def Finds (engine : SearchEngine) (request : Request) (search : Search) : Prop :=
  request.compile = .ok search ∧ (engine.reply search).Succeeds

theorem succeeds_iff_no_error (engine : SearchEngine) (search : Search) :
    (engine.reply search).Succeeds ↔ (engine.reply search).json.member? "error" = none := by
  constructor
  · exact fun succeeds => succeeds.noError
  · intro clean
    rcases engine.definite search with succeeds | fails
    · exact succeeds
    · exact absurd clean fails.error

theorem alone_eq_ok {engine : SearchEngine} {client : Client σ} (served : engine.ServedBy client)
    (request : Request) (state : σ) (envelope : Envelope) :
    resultOf client (searchRequest request) state = .ok envelope ↔
      ∃ search, engine.Finds request search ∧
        envelope = Envelope.ofAnswer request (engine.reply search).json := by
  unfold Finds
  cases compiled : request.compile with
  | error refusal => simp [resultOf, transcript_search_request, compiled]
  | ok search =>
      rw [result_of_search_request client compiled, served.single]
      simp only [Except.ok.injEq, and_assoc, exists_eq_left']
      rcases engine.definite search with succeeds | fails
      · simp [succeeds.judge_eq, Except.mapError, Except.map, succeeds, eq_comm]
      · have refused : ¬(engine.reply search).Succeeds := by
          rw [succeeds_iff_no_error]
          exact fails.error
        cases verdict : judge (.ok (engine.reply search).answer) with
        | ok answer => exact absurd verdict (fails.judge_ne answer)
        | error fault => simp [Except.mapError, Except.map, refused]

theorem batch_reply_judged (engine : SearchEngine) (searches : List Search) :
    judge (.ok (engine.batchReply searches).answer) =
      .ok (engine.batchReply searches).answer := by
  apply Reply.Succeeds.judge_eq
  constructor <;> simp [batchReply, Json.single, Json.isObject, Json.member?, Entries.find?]

theorem finds_all_iff (engine : SearchEngine) (requests : List Request) (searches : List Search) :
    List.Forall₂ engine.Finds requests searches ↔
      Request.compileAll requests = .ok searches ∧
        ∀ search ∈ searches, (engine.reply search).json.member? "error" = none := by
  rw [Request.compileAll, Checked.map_m_eq_ok]
  induction requests generalizing searches with
  | nil => cases searches <;> simp
  | cons request rest ih =>
      cases searches with
      | nil => simp
      | cons search further =>
          simp only [List.forall₂_cons, ih, List.forall_mem_cons, Finds, succeeds_iff_no_error]
          tauto

theorem batch_eq_ok {engine : SearchEngine} {client : Client σ} (served : engine.ServedBy client)
    (requests : List Request) (several : 2 ≤ requests.length) (state : σ) (envelope : Envelope) :
    resultOf client (searchRequests requests) state = .ok envelope ↔
      ∃ searches, List.Forall₂ engine.Finds requests searches ∧
        envelope = Envelope.ofAnswers (searches.map fun search => (engine.reply search).json)
          requests := by
  simp only [resultOf, transcript_search_requests client requests several, finds_all_iff]
  cases Request.compileAll requests with
  | error refusal => simp
  | ok searches =>
      have shown : ∀ found, answersOf searches (engine.batchReply searches).json = .ok found ↔
          (∀ json ∈ searches.map fun search => (engine.reply search).json,
            json.member? "error" = none) ∧
          found = searches.map fun search => (engine.reply search).json :=
        fun found => answers_of_responses searches _ found (by simp)
      simp only [transcript_search_all, concluded, served.batch, batch_reply_judged,
        Checked.map_eq_ok, Checked.map_error_eq_ok]
      simp only [Except.bind, Reply.answer_json, shown, List.forall_mem_map, Except.ok.injEq]
      constructor
      · rintro ⟨found, ⟨clean, rfl⟩, rfl⟩
        exact ⟨searches, ⟨rfl, clean⟩, rfl⟩
      · rintro ⟨same, ⟨rfl, clean⟩, rfl⟩
        exact ⟨_, ⟨clean, rfl⟩, rfl⟩

theorem data_of_singles {engine : SearchEngine} {requests : List Request}
    {searches : List Search} {singles : List Envelope}
    (found : List.Forall₂ engine.Finds requests searches)
    (alone : List.Forall₂ (fun request single => ∃ search, engine.Finds request search ∧
      single = Envelope.ofAnswer request (engine.reply search).json) requests singles) :
    ((searches.map fun search => (engine.reply search).json).zip requests).flatMap
        (fun pair => (Envelope.ofAnswer pair.2 pair.1).data) =
      singles.flatMap Envelope.data := by
  induction found generalizing singles with
  | nil =>
      cases alone
      rfl
  | cons finds _ ih =>
      cases alone with
      | cons single further =>
          obtain ⟨search, sameSearch, rfl⟩ := single
          have unique := finds.1.symm.trans sameSearch.1
          injection unique with same
          subst same
          simp only [List.map_cons, List.zip_cons_cons, List.flatMap_cons, ih further]

/-- A batch of two or more requests succeeds exactly when every request alone does. Its documents
and page are then those of the first request alone, and its additional documents those of all other
requests alone, one after another. -/
theorem batch_agrees_with_single_searches (engine : SearchEngine) (client : Client σ)
    (served : engine.ServedBy client) (requests : List Request) (several : 2 ≤ requests.length)
    (state : σ) (apart : Request → σ) :
    ((∃ envelope, resultOf client (searchRequests requests) state = .ok envelope) ↔
      ∀ request ∈ requests, ∃ envelope,
        resultOf client (searchRequest request) (apart request) = .ok envelope) ∧
    ∀ envelope first rest,
      resultOf client (searchRequests requests) state = .ok envelope →
      List.Forall₂ (fun request single =>
        resultOf client (searchRequest request) (apart request) = .ok single)
        requests (first :: rest) →
      envelope.data = first.data ∧ envelope.page = first.page ∧
        envelope.additional = some (rest.flatMap Envelope.data) := by
  simp only [batch_eq_ok served requests several, alone_eq_ok served]
  constructor
  · have together : (∃ envelope searches, List.Forall₂ engine.Finds requests searches ∧
        envelope = Envelope.ofAnswers (searches.map fun search => (engine.reply search).json)
          requests) ↔ ∃ searches, List.Forall₂ engine.Finds requests searches := by
      rw [exists_comm]
      simp
    have each (request : Request) : (∃ envelope search, engine.Finds request search ∧
        envelope = Envelope.ofAnswer request (engine.reply search).json) ↔
          ∃ search, engine.Finds request search := by
      rw [exists_comm]
      simp
    simp only [together, each, Checked.exists_forall₂_iff]
  · rintro envelope first rest ⟨searches, found, rfl⟩ alone
    match requests, searches, several, found, alone with
    | request :: other :: others, search :: next :: further, _, .cons finds found,
        .cons ⟨same, sameFinds, envelopeEq⟩ alone =>
      have unique := finds.1.symm.trans sameFinds.1
      injection unique with sameSearch
      subst sameSearch
      have gathered := data_of_singles found alone
      subst envelopeEq
      simp only [List.map_cons, Envelope.of_answers_cons, true_and]
      exact congrArg some gathered

def client (engine : SearchEngine) : Client Unit where
  execute _ action :=
    match action with
    | .search wanted => ⟨.ok (engine.reply wanted).answer, [], ()⟩
    | .multiSearch searches => ⟨.ok (engine.batchReply searches).answer, [], ()⟩
    | _ => ⟨.error .clientClosed, [], ()⟩

theorem served_by_client (engine : SearchEngine) : engine.ServedBy engine.client :=
  ⟨fun _ _ => rfl, fun _ _ => rfl⟩

def oneBook : SearchEngine where
  reply search :=
    if search.indices = ["books"] then
      ⟨200, .single "hits" (.single "hits" (.array [.single "_source" (.single "id"
        (.ofUInt64 7))]))⟩
    else ⟨404, .single "error" (.string "no such index")⟩
  definite search := by
    by_cases known : search.indices = ["books"]
    · exact .inl (by simp only [known, if_true]; constructor <;> decide)
    · exact .inr (by simp only [known, if_false]; constructor <;> decide)

def twoRequests : List Request :=
  [Request.ofRaw "\x7b\x7d" ["books"] [], Request.ofClauses "books" ⟨[.everything], [], []⟩]

theorem batch_of_two_agrees_with_single_searches :
    2 ≤ twoRequests.length ∧
      ∃ envelope, resultOf oneBook.client (searchRequests twoRequests) () = .ok envelope ∧
        envelope.additional = some [.single "id" (.ofUInt64 7)] := by
  have several : 2 ≤ twoRequests.length := by decide
  have alone : ∀ request ∈ twoRequests, ∃ envelope,
      resultOf oneBook.client (searchRequest request) () = .ok envelope := by
    intro request member
    rcases List.mem_pair.mp member with rfl | rfl
    · exact ⟨_, rfl⟩
    · exact ⟨_, rfl⟩
  have agreement := batch_agrees_with_single_searches oneBook oneBook.client
    oneBook.served_by_client twoRequests several () fun _ => ()
  obtain ⟨envelope, ran⟩ := agreement.1.mpr alone
  have parts := agreement.2 envelope _ [_] ran (.cons rfl (.cons rfl .nil))
  exact ⟨several, envelope, ran, parts.2.2⟩

end SearchEngine

end SearchKit
