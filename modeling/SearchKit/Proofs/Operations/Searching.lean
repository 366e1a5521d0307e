import SearchKit.Operations.Searching
import SearchKit.Proofs.Engine.Running

/-!
The transcripts of single searches and of batches: a request that is refused sends nothing, and an
accepted one does what its search does and reshapes the answer.
-/

namespace SearchKit.Operation

set_option autoImplicit false

variable {σ α : Type}

theorem transcript_checked_bind (client : Client σ) (checked : Except Refusal α) {β : Type}
    (next : α → Operation β) (state : σ) :
    transcript client (ofChecked checked >>= next) state =
      match checked with
      | .error refusal => ⟨.error (.invalidRequest refusal), [], [], state⟩
      | .ok value => transcript client (next value) state := by
  cases checked with
  | error refusal => simp [ofChecked]
  | ok value => simp [ofChecked]

theorem transcript_search_request (client : Client σ) (request : Request) (state : σ) :
    transcript client (searchRequest request) state =
      match request.compile with
      | .error refusal => ⟨.error (.invalidRequest refusal), [], [], state⟩
      | .ok wanted =>
          let found := transcript client (search wanted) state
          ⟨found.result.map (Envelope.ofAnswer request), found.exchanges, found.events,
            found.state⟩ := by
  simp only [searchRequest, transcript_checked_bind]
  cases request.compile with
  | error refusal => rfl
  | ok wanted => simp

theorem transcript_search_requests (client : Client σ) (requests : List Request)
    (several : 2 ≤ requests.length) (state : σ) :
    transcript client (searchRequests requests) state =
      match Request.compileAll requests with
      | .error refusal => ⟨.error (.invalidRequest refusal), [], [], state⟩
      | .ok searches =>
          let found := transcript client (searchAll searches) state
          ⟨found.result.map fun answers => Envelope.ofAnswers answers requests, found.exchanges,
            found.events, found.state⟩ := by
  match requests, several with
  | first :: second :: rest, _ =>
      simp only [searchRequests, transcript_checked_bind]
      cases Request.compileAll (first :: second :: rest) with
      | error refusal => rfl
      | ok searches => simp

theorem result_of_search_request (client : Client σ) {request : Request} {wanted : Search}
    (compiled : request.compile = .ok wanted) (state : σ) :
    resultOf client (searchRequest request) state =
      ((judge (client.execute state (.search wanted)).outcome).mapError
        (.searchFailed (Action.search wanted).uri)).map
          fun answer => Envelope.ofAnswer request answer.json := by
  simp only [resultOf, transcript_search_request, compiled, transcript_search, concluded]
  cases judge (client.execute state (.search wanted)).outcome <;> rfl

end SearchKit.Operation
