import SearchKit.Engine.Dialogue
import SearchKit.Proofs.Operations.Searching
import SearchKit.Proofs.Operations.WholeAnswers
import SearchKit.Proofs.Result.Totals

/-!
A request can be searched for its documents in an envelope, for decoded documents, and for decoded
documents with the count of all hits. The three forms send the same and see the same answer, and
differ only in what they make of it.
-/

namespace SearchKit

set_option autoImplicit false

variable {σ α β : Type}

def Client.replies (client : Client σ) (state : σ) (action : Action) : Outcome :=
  (client.execute state action).outcome

namespace Operation

/-! ## Decoded documents -/

/-- Documents are decoded all, and in their order, or else none is given and the failure is that of
the first document that does not decode. -/
structure Decodes (decode : Json.Decoder α) (documents : List Json) (given : List α → β)
    (result : Except Failure β) : Prop where
  succeeds : (∃ value, result = .ok value) ↔
    ∀ document ∈ documents, ∃ value, decode document = .ok value
  whole : ∀ value, result = .ok value ↔ ∃ values,
    List.Forall₂ (fun document decoded => decode document = .ok decoded) documents values ∧
      given values = value
  first : ∀ failure, result = .error failure ↔ ∃ before document after mismatch,
    documents = before ++ document :: after ∧
      (∀ earlier ∈ before, ∃ value, decode earlier = .ok value) ∧
      decode document = .error mismatch ∧ failure = .json (.mismatch mismatch)

def decoded (decode : Json.Decoder α) (documents : List Json) : Except Failure (List α) :=
  (documents.mapM decode).mapError fun mismatch => .json (.mismatch mismatch)

theorem transcript_decode_all (client : Client σ) (decode : Json.Decoder α) (documents : List Json)
    (state : σ) :
    transcript client (decodeAll decode documents) state =
      ⟨decoded decode documents, [], [], state⟩ := by
  unfold decodeAll decoded
  cases documents.mapM decode <;> rfl

theorem decodes_of_decoded (decode : Json.Decoder α) (documents : List Json)
    (given : List α → β) :
    Decodes decode documents given ((decoded decode documents).map given) := by
  have whole (value : β) : (decoded decode documents).map given = .ok value ↔ ∃ values,
      List.Forall₂ (fun document decoded => decode document = .ok decoded) documents values ∧
        given values = value := by
    simp only [Checked.map_eq_ok, decoded, Checked.map_error_eq_ok, Checked.map_m_eq_ok]
  refine ⟨?_, whole, fun failure => ?_⟩
  · simp only [whole, ← Checked.exists_forall₂_iff]
    constructor
    · rintro ⟨_, values, each, -⟩
      exact ⟨values, each⟩
    · rintro ⟨values, each⟩
      exact ⟨given values, values, each, rfl⟩
  · simp only [Checked.map_eq_error, decoded, Checked.map_error_eq_error, Checked.map_m_eq_error]
    constructor
    · rintro ⟨mismatch, ⟨before, document, after, split, earlier, failed⟩, rfl⟩
      exact ⟨before, document, after, mismatch, split, earlier, failed, rfl⟩
    · rintro ⟨before, document, after, mismatch, split, earlier, failed, rfl⟩
      exact ⟨mismatch, ⟨before, document, after, split, earlier, failed⟩, rfl⟩

/-! ## What is sent and answered -/

/-- The exchanges of a request, when each action has the outcome that is given for it. -/
def exchangesOf (request : Request) (reply : Action → Outcome) : List Exchange :=
  match request.compile with
  | .error _ => []
  | .ok wanted => [⟨.search wanted, reply (.search wanted)⟩]

def answerTo (request : Request) (reply : Action → Outcome) : Except Failure Json :=
  match request.compile with
  | .error refusal => .error (.invalidRequest refusal)
  | .ok wanted =>
      ((judge (reply (.search wanted))).map Answer.json).mapError
        (.searchFailed (Action.search wanted).uri)

theorem delivered_of_answer {request : Request} {reply : Action → Outcome} {json : Json}
    (answered : answerTo request reply = .ok json) :
    ∃ exchange, exchangesOf request reply = [exchange] ∧ Delivers exchange.outcome json := by
  unfold answerTo at answered
  unfold exchangesOf
  cases compiled : request.compile with
  | error refusal =>
      rw [compiled] at answered
      contradiction
  | ok wanted =>
      simp only [compiled, Checked.map_error_eq_ok, Checked.map_eq_ok, judge_eq_ok] at answered
      obtain ⟨answer, ⟨outcome, succeeded⟩, given⟩ := answered
      exact ⟨_, rfl, answer, outcome, succeeded, given⟩

/-- The operation searches for the request, and all else that it does is to make something of the
answer. -/
structure Asks (request : Request) (made : Json → Except Failure β) (reply : Action → Outcome)
    (run : Transcript σ (Except Failure β)) : Prop where
  sent : run.exchanges = exchangesOf request reply
  made : run.result = (answerTo request reply).bind made

/-- Whatever is done with the answer, so long as the client has no part in it. -/
theorem asks_of_silent (client : Client σ) (request : Request) {made : Json → Except Failure β}
    {finish : Json → Operation β}
    (silent : ∀ json state, transcript client (finish json) state = ⟨made json, [], [], state⟩)
    (state : σ) :
    Asks request made (client.replies state) (transcript client (do
      let wanted ← ofChecked request.compile
      let json ← search wanted
      finish json) state) := by
  rw [transcript_checked_bind]
  cases compiled : request.compile with
  | error refusal => constructor <;> simp [exchangesOf, answerTo, compiled, Except.bind]
  | ok wanted =>
      simp only [transcript_bind, transcript_search, concluded, silent]
      cases verdict : (judge (client.execute state (.search wanted)).outcome).map Answer.json <;>
        constructor <;>
        simp [exchangesOf, answerTo, compiled, Client.replies, verdict, Except.mapError, Except.bind]

theorem asks_search_request (client : Client σ) (request : Request) (state : σ) :
    Asks request (fun json => .ok (Envelope.ofAnswer request json)) (client.replies state)
      (transcript client (searchRequest request) state) :=
  asks_of_silent client request (fun _ _ => rfl) state

theorem asks_search_decoded (client : Client σ) (decode : Json.Decoder α) (request : Request)
    (state : σ) :
    Asks request (fun json => decoded decode (Hits.documents request.highlightField json))
      (client.replies state) (transcript client (searchDecoded decode request) state) :=
  asks_of_silent client request (fun _ _ => transcript_decode_all ..) state

theorem asks_search_counted (client : Client σ) (decode : Json.Decoder α) (request : Request)
    (state : σ) :
    Asks request
      (fun json => (decoded decode (Hits.documents request.highlightField json)).map
        fun values => (values, (Hits.total? json).getD 0))
      (client.replies state) (transcript client (searchCounted decode request) state) := by
  refine asks_of_silent client request (fun json state => ?_) state
  rw [bind_pure_comp, transcript_map, transcript_decode_all]

/-! ## The three forms -/

/-- Three forms of one search go alike: each sends what the first sends and fails where it fails. -/
structure GoAlike {γ : Type} (request : Request) (reply : Action → Outcome)
    (whole : Transcript σ (Except Failure Envelope)) (listed : Transcript σ (Except Failure β))
    (counted : Transcript σ (Except Failure γ)) : Prop where
  listed_sent : listed.exchanges = whole.exchanges
  counted_sent : counted.exchanges = whole.exchanges
  refused : ∀ refusal, request.compile = .error refusal →
    whole.exchanges = [] ∧ whole.result = .error (.invalidRequest refusal)
  sent : ∀ wanted, request.compile = .ok wanted →
    whole.exchanges = [⟨.search wanted, reply (.search wanted)⟩]
  failed : ∀ failure, whole.result = .error failure →
    listed.result = .error failure ∧ counted.result = .error failure

theorem go_alike_of_asks {γ : Type} {request : Request} {reply : Action → Outcome}
    {list : Json → Except Failure β} {count : Json → Except Failure γ}
    {whole : Transcript σ (Except Failure Envelope)} {listed : Transcript σ (Except Failure β)}
    {counted : Transcript σ (Except Failure γ)}
    (asksWhole : Asks request (fun json => .ok (Envelope.ofAnswer request json)) reply whole)
    (asksListed : Asks request list reply listed) (asksCounted : Asks request count reply counted) :
    GoAlike request reply whole listed counted where
  listed_sent := asksListed.sent.trans asksWhole.sent.symm
  counted_sent := asksCounted.sent.trans asksWhole.sent.symm
  refused := by
    intro refusal uncompiled
    rw [asksWhole.sent, asksWhole.made, exchangesOf, answerTo, uncompiled]
    exact ⟨rfl, rfl⟩
  sent := by
    intro wanted compiled
    rw [asksWhole.sent, exchangesOf, compiled]
  failed := by
    intro failure failed
    rw [asksWhole.made] at failed
    rw [asksListed.made, asksCounted.made]
    cases answered : answerTo request reply with
    | ok json => simp [answered, Except.bind] at failed
    | error fault =>
        rw [answered] at failed
        injection failed with same
        exact same ▸ ⟨rfl, rfl⟩

/-- The three forms of a search see the same documents. With a client that replies to them alike,
they send the same and fail for the same reasons, and when there is an answer, the decoded forms
give the documents of the envelope, decoded, or fail at the first that does not decode. The total
beside them is that of the answer, and it is the total of the page wherever the request asks for
one. -/
theorem search_forms_see_the_same (client : Client σ) (request : Request)
    (decode : Json.Decoder α) (state listing counting : σ)
    (listingAlike : client.replies listing = client.replies state)
    (countingAlike : client.replies counting = client.replies state) :
    let whole := transcript client (searchRequest request) state
    let listed := transcript client (searchDecoded decode request) listing
    let counted := transcript client (searchCounted decode request) counting
    GoAlike request (client.replies state) whole listed counted ∧
    ∀ envelope, whole.result = .ok envelope → ∃ exchange json total,
      whole.exchanges = [exchange] ∧ Delivers exchange.outcome json ∧
      (Hits.HasTotal json total ∨ total = 0 ∧ ∀ count, ¬Hits.HasTotal json count) ∧
      Decodes decode envelope.data id listed.result ∧
      Decodes decode envelope.data (fun values => (values, total)) counted.result ∧
      (envelope.page.isSome ↔ ∃ page, request.page = some page ∧ page.enabled = true) ∧
      ∀ summary, envelope.page = some summary → summary.total = total := by
  intro whole listed counted
  have asksWhole := asks_search_request client request state
  have asksListed := listingAlike ▸ asks_search_decoded client decode request listing
  have asksCounted := countingAlike ▸ asks_search_counted client decode request counting
  refine ⟨go_alike_of_asks asksWhole asksListed asksCounted, ?_⟩
  intro envelope found
  rw [asksWhole.made] at found
  obtain ⟨json, answered, made⟩ := (Checked.bind_eq_ok _ _ _).mp found
  injection made with same
  subst same
  obtain ⟨exchange, alone, delivers⟩ := delivered_of_answer answered
  refine ⟨exchange, json, (Hits.total? json).getD 0, asksWhole.sent.trans alone, delivers,
    Hits.total_or_zero json, ?_, ?_, Envelope.page_is_some_iff request json,
    fun summary => Envelope.total_of_page⟩
  · have given : listed.result =
        (decoded decode (Hits.documents request.highlightField json)).map id := by
      rw [asksListed.made, answered, Except.map_id]
      rfl
    exact given ▸ decodes_of_decoded decode _ id
  · have given : counted.result =
        (decoded decode (Hits.documents request.highlightField json)).map
          fun values => (values, (Hits.total? json).getD 0) := by
      rw [asksCounted.made, answered]
      rfl
    exact given ▸ decodes_of_decoded decode _ _

def rustBooks : Request := .ofClauses "books" ⟨[⟨"subject", some (.string "Rust"), .term⟩], [], []⟩

def titleOf : Json.Decoder String := fun document =>
  (Json.Decoder.required "title" (document.member? "title")).bind Json.Decoder.string

def untitledBook (times : Nat) : Scripted :=
  .ofOutcomes <| .replicate times <| .ok <| .success <| .single "hits" <|
    .single "hits" (.array
      [.single "_source" (.single "title" (.string "In rust")),
        .single "_source" (.single "year" (.ofUInt64 2015))])

theorem no_titles_are_listed :
    let failed := Failure.json (.mismatch (.missingField "title"))
    resultOf Scripted.client (searchDecoded titleOf rustBooks) (untitledBook 2) = .error failed ∧
      resultOf Scripted.client (searchCounted titleOf rustBooks) (untitledBook 1) =
        .error failed := by
  intro failed
  obtain ⟨-, seen⟩ := search_forms_see_the_same Scripted.client rustBooks titleOf (untitledBook 3)
    (untitledBook 2) (untitledBook 1) rfl rfl
  obtain ⟨_, _, total, -, -, -, listed, counted, -⟩ := seen _ rfl
  have titled : titleOf (.single "title" (.string "In rust")) = .ok "In rust" := rfl
  exact ⟨(listed.first failed).mpr ⟨[_], _, [], _, rfl, by simpa using ⟨_, titled⟩, rfl, rfl⟩,
    (counted.first failed).mpr ⟨[_], _, [], _, rfl, by simpa using ⟨_, titled⟩, rfl, rfl⟩⟩

end Operation

end SearchKit
