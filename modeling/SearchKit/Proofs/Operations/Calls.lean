import SearchKit.Proofs.Operations.InTurn

/-!
All calls of the library, and how they fail. A call refuses what it is given before anything is
sent, and ends with the first failure of its client, which it reports as its own.
-/

namespace SearchKit

set_option autoImplicit false

variable {σ α β : Type}

namespace Operation

/-! ## Operations that report their client -/

/-- A failure of the client in the words of an operation. -/
abbrev Wording := Action → Failure → Failure

def searchWording : Wording := fun action failure =>
  .searchFailed action.uri (.clientFailed failure.message)

def actionWording : Wording := fun action failure =>
  .operationFailed action.name failure.message

/-- The first failure of the client ends the operation and is what it reports. -/
def StopsAtFailure (wording : Wording) (operation : Operation α) : Prop :=
  ∀ ⦃σ : Type⦄ (client : Client σ) (state : σ) (earlier later : List Exchange) (action : Action)
    (failure : Failure),
    (transcript client operation state).exchanges = earlier ++ ⟨action, .error failure⟩ :: later →
      later = [] ∧ (transcript client operation state).result = .error (wording action failure)

/-- The operation never refuses a request, and stops at the first failure of its client. -/
structure Reports (wording : Wording) (operation : Operation α) : Prop where
  unrefused : ∀ ⦃σ : Type⦄ (client : Client σ) (state : σ) (refusal : Refusal),
    (transcript client operation state).result ≠ .error (.invalidRequest refusal)
  stops : StopsAtFailure wording operation

/-- A request is refused before anything is sent, or else the operation stops at the first failure
of its client. -/
structure Forthright (wording : Wording) (operation : Operation α) : Prop where
  unsent : ∀ ⦃σ : Type⦄ (client : Client σ) (state : σ) (refusal : Refusal),
    (transcript client operation state).result = .error (.invalidRequest refusal) →
      (transcript client operation state).exchanges = []
  stops : StopsAtFailure wording operation

section Closure

variable {wording : Wording}

theorem reports_pure (value : α) : Reports wording (pure value : Operation α) where
  unrefused := by simp
  stops := by simp [StopsAtFailure]

theorem reports_log (event : LogEvent) : Reports wording (log event) where
  unrefused := by simp
  stops := by simp [StopsAtFailure]

theorem reports_throw {failure : Failure} (other : ∀ refusal, failure ≠ .invalidRequest refusal) :
    Reports wording (throw failure : Operation α) where
  unrefused := by
    intro σ client state refusal
    simpa using other refusal
  stops := by simp [StopsAtFailure]

theorem reports_bind {operation : Operation α} {next : α → Operation β}
    (first : Reports wording operation) (second : ∀ value, Reports wording (next value)) :
    Reports wording (operation >>= next) where
  unrefused := by
    intro σ client state refusal
    have unrefused := first.unrefused client state refusal
    rw [transcript_bind]
    cases ended : (transcript client operation state).result with
    | error failure => simpa [ended] using unrefused
    | ok value => simpa [ended] using (second value).unrefused client _ refusal
  stops := by
    intro σ client state earlier later action failure sent
    have stops := first.stops client state
    rw [transcript_bind] at sent ⊢
    cases ended : (transcript client operation state).result with
    | error reported =>
        simp only [ended, Except.error.injEq] at sent stops ⊢
        exact stops earlier later action failure sent
    | ok value =>
        simp only [ended] at sent stops ⊢
        -- The failure is one of the second operation, since the first went well.
        rcases List.append_eq_append_iff.mp sent with
          ⟨between, -, inSecond⟩ | ⟨rest, inFirst, split⟩
        · exact (second value).stops client _ between later action failure inSecond
        · cases rest with
          | nil => exact (second value).stops client _ [] later action failure split.symm
          | cons head rest =>
              rw [List.cons_append, List.cons.injEq] at split
              rw [← split.1] at inFirst
              exact absurd (stops earlier rest action failure inFirst).2 (by simp)

theorem reports_execute {action : Action} {next : Outcome → Operation α}
    (other : ∀ failure refusal, wording action failure ≠ .invalidRequest refusal)
    (failed : ∀ {σ : Type} (client : Client σ) (state : σ) (failure : Failure),
      (transcript client (next (.error failure)) state).exchanges = [] ∧
        (transcript client (next (.error failure)) state).result = .error (wording action failure))
    (answered : ∀ answer, Reports wording (next (.ok answer))) :
    Reports wording (execute action >>= next) where
  unrefused := by
    intro σ client state refusal
    rw [transcript_bind, transcript_execute]
    cases outcome : (client.execute state action).outcome with
    | error failure => simpa [outcome, (failed client _ failure).2] using other failure refusal
    | ok answer => simpa [outcome] using (answered answer).unrefused client _ refusal
  stops := by
    intro σ client state earlier later performed failure sent
    rw [transcript_bind, transcript_execute] at sent ⊢
    cases outcome : (client.execute state action).outcome with
    | error reported =>
        have ended := failed client (client.execute state action).state reported
        simp only [outcome, ended, List.append_nil] at sent ⊢
        cases earlier with
        | nil =>
            simp only [List.nil_append, List.cons.injEq, Exchange.mk.injEq, Except.error.injEq]
              at sent
            obtain ⟨⟨rfl, rfl⟩, rfl⟩ := sent
            exact ⟨rfl, rfl⟩
        | cons head rest => simp at sent
    | ok answer =>
        simp only [outcome] at sent ⊢
        cases earlier with
        | nil => simp at sent
        | cons head rest =>
            rw [List.singleton_append, List.cons_append, List.cons.injEq] at sent
            exact (answered answer).stops client _ rest later performed failure sent.2

theorem Reports.forthright {operation : Operation α} (reports : Reports wording operation) :
    Forthright wording operation where
  unsent := fun _ client state refusal refused =>
    absurd refused (reports.unrefused client state refusal)
  stops := reports.stops

theorem forthright_refused (refusal : Refusal) :
    Forthright wording (throw (.invalidRequest refusal) : Operation α) where
  unsent := by simp
  stops := by simp [StopsAtFailure]

theorem forthright_checked_bind {checked : Except Refusal α} {next : α → Operation β}
    (each : ∀ value, Reports wording (next value)) :
    Forthright wording (ofChecked checked >>= next) := by
  cases checked with
  | ok value =>
      rw [ofChecked, pure_bind]
      exact (each value).forthright
  | error refusal => exact forthright_refused refusal

end Closure

/-! ## Single actions and loops -/

theorem reports_acknowledge (action : Action) : Reports actionWording (acknowledge action) := by
  apply reports_execute
  · simp [actionWording]
  · simp [transcript_bind, actionWording]
  · exact fun answer => reports_bind (reports_log _) fun _ => reports_pure _

theorem reports_fail_search (action : Action) (fault : SearchFault) :
    Reports searchWording (failSearch action fault : Operation α) :=
  reports_bind (reports_log _) fun _ => reports_throw (by simp)

theorem reports_answered (action : Action) : Reports searchWording (answered action) := by
  refine reports_bind (reports_log _) fun _ => ?_
  apply reports_execute
  · simp [searchWording]
  · simp [transcript_fail_search, searchWording]
  · intro answer
    dsimp only
    split
    · exact reports_pure answer
    · exact reports_fail_search action _

theorem reports_search (wanted : Search) : Reports searchWording (search wanted) := by
  refine reports_bind (reports_answered _) fun answer => ?_
  exact reports_bind (reports_log _) fun _ => reports_pure _

theorem reports_search_all (searches : List Search) :
    Reports searchWording (searchAll searches) := by
  refine reports_bind (reports_answered _) fun answer => ?_
  split
  · exact reports_fail_search _ _
  · exact reports_bind (reports_log _) fun _ => reports_pure _

theorem reports_decode_all (wording : Wording) (decode : Json.Decoder α) (documents : List Json) :
    Reports wording (decodeAll decode documents) := by
  unfold decodeAll
  split
  · exact reports_pure _
  · exact reports_throw (by simp)

theorem reports_get (index docType id : String) :
    Reports actionWording (Operation.get index docType id) := by
  refine reports_bind (reports_log _) fun _ => ?_
  apply reports_execute
  · simp [actionWording]
  · simp [actionWording, Action.name]
  · exact fun answer => reports_bind (reports_log _) fun _ => reports_pure _

theorem reports_multi_get (index docType : String) (ids : List String) :
    Reports actionWording (multiGet index docType ids) := by
  refine reports_bind (reports_log _) fun _ => ?_
  split
  · exact reports_pure []
  · apply reports_execute
    · simp [actionWording]
    · simp [actionWording, Action.name]
    · intro answer
      dsimp only
      split
      · exact reports_bind (reports_log _) fun _ => reports_pure _
      · exact reports_bind (reports_log _) fun _ => reports_pure _

theorem reports_in_turn (actions : List Action) : Reports actionWording (inTurn actions) := by
  induction actions using inTurn.induct with
  | case1 => exact reports_pure false
  | case2 action => exact reports_acknowledge action
  | case3 action next more ih =>
      refine reports_bind (reports_acknowledge action) fun accepted => ?_
      split
      · exact ih
      · exact reports_pure false

theorem reports_save_each (index docType : String) (idOf : Json → Option String)
    (documents : List Json) : Reports actionWording (saveEach index docType idOf documents) := by
  induction documents with
  | nil => exact reports_pure ()
  | cons document rest ih =>
      rw [saveEach]
      cases idOf document with
      | none => exact ih
      | some id =>
          refine reports_bind ?_ fun _ => ih
          exact reports_bind (reports_acknowledge _) fun _ => reports_pure _

end Operation

/-! ## Calls -/

inductive Call : Type → Type 1 where
  | search (request : Request) : Call Envelope
  | searchMany (requests : List Request) : Call Envelope
  | searchRaw (query : String) (indices types : List String) (page : Option Page)
      (order : List Order) : Call Envelope
  | searchDecoded {α : Type} (decode : Json.Decoder α) (request : Request) : Call (List α)
  | searchCounted {α : Type} (decode : Json.Decoder α) (request : Request) :
      Call (List α × UInt64)
  | get (index docType id : String) : Call Json
  | multiGet (index docType : String) (ids : List String) : Call (List Json)
  | instruct (instruction : Instruction) : Call Bool
  | saveList (index docType : String) (documents : List Json) : Call Unit
  | saveListBy (index docType : String) (idOf : Json → Option String) (documents : List Json) :
      Call Unit

namespace Call

open Operation

def perform : {α : Type} → Call α → Operation α
  | _, .search request => searchRequest request
  | _, .searchMany requests => searchRequests requests
  | _, .searchRaw query indices types page order =>
      Operation.searchRaw query indices types page order
  | _, .searchDecoded decode request => Operation.searchDecoded decode request
  | _, .searchCounted decode request => Operation.searchCounted decode request
  | _, .get index docType id => Operation.get index docType id
  | _, .multiGet index docType ids => Operation.multiGet index docType ids
  | _, .instruct instruction => instruction.perform
  | _, .saveList index docType documents => Operation.saveList index docType documents
  | _, .saveListBy index docType idOf documents => Operation.saveListBy index docType idOf documents

def wording : {α : Type} → Call α → Wording
  | _, .search _ | _, .searchMany _ | _, .searchRaw _ _ _ _ _ | _, .searchDecoded _ _
  | _, .searchCounted _ _ => searchWording
  | _, .get _ _ _ | _, .multiGet _ _ _ | _, .instruct _ | _, .saveList _ _ _
  | _, .saveListBy _ _ _ _ => actionWording

/-- A failed search says where it went, and any other failed call which action it was. -/
def opening {α : Type} (call : Call α) (action : Action) : String :=
  match call with
  | .search _ | .searchMany _ | .searchRaw _ _ _ _ _ | .searchDecoded _ _ | .searchCounted _ _ =>
      "search failed! [" ++ action.uri ++ "] "
  | .get _ _ _ | .multiGet _ _ _ | .instruct _ | .saveList _ _ _ | .saveListBy _ _ _ _ =>
      action.name ++ " failed! "

theorem message_of_wording (call : Call α) (action : Action) (failure : Failure) :
    (call.wording action failure).message = call.opening action ++ failure.message := by
  cases call <;> rfl

theorem forthright_search_request (request : Request) :
    Forthright searchWording (searchRequest request) :=
  forthright_checked_bind fun wanted => reports_bind (reports_search wanted) fun _ => reports_pure _

theorem forthright_search_requests (requests : List Request) :
    Forthright searchWording (searchRequests requests) := by
  match requests with
  | [] => exact forthright_refused _
  | [request] => exact forthright_search_request request
  | first :: second :: rest =>
      exact forthright_checked_bind fun searches =>
        reports_bind (reports_search_all searches) fun _ => reports_pure _

theorem forthright_save_list_by (index docType : String) (idOf : Json → Option String)
    (documents : List Json) :
    Forthright actionWording (Operation.saveListBy index docType idOf documents) := by
  unfold Operation.saveListBy
  split
  · exact forthright_refused _
  · exact (reports_save_each index docType idOf documents).forthright

theorem forthright_perform (call : Call α) : Forthright call.wording call.perform := by
  cases call with
  | search request => exact forthright_search_request request
  | searchMany requests => exact forthright_search_requests requests
  | searchRaw query indices types page order => exact forthright_search_request _
  | searchDecoded decode request =>
      exact forthright_checked_bind fun wanted =>
        reports_bind (reports_search wanted) fun json => reports_decode_all _ decode _
  | searchCounted decode request =>
      exact forthright_checked_bind fun wanted =>
        reports_bind (reports_search wanted) fun json =>
          reports_bind (reports_decode_all _ decode _) fun _ => reports_pure _
  | get index docType id => exact (reports_get index docType id).forthright
  | multiGet index docType ids => exact (reports_multi_get index docType ids).forthright
  | instruct instruction =>
      rw [perform, Instruction.perform_eq_plan]
      exact forthright_checked_bind reports_in_turn
  | saveList index docType documents => exact forthright_save_list_by index docType _ documents
  | saveListBy index docType idOf documents =>
      exact forthright_save_list_by index docType idOf documents

/-- However the client behaves, a call that refuses its request has sent nothing, and the first
failure of the client is the end of the call: nothing is sent behind it, and the call fails as a
failed search or as a failed operation, with the text of that failure behind its own. -/
theorem refuses_early_and_stops_at_failure (call : Call α) (client : Client σ) (state : σ) :
    let run := transcript client call.perform state
    (∀ refusal, run.result = .error (.invalidRequest refusal) → run.exchanges = []) ∧
      ∀ earlier later action failure,
        run.exchanges = earlier ++ ⟨action, .error failure⟩ :: later →
          later = [] ∧ run.result = .error (call.wording action failure) ∧
            (call.wording action failure).message = call.opening action ++ failure.message := by
  refine ⟨call.forthright_perform.unsent client state, ?_⟩
  intro earlier later action failure sent
  obtain ⟨last, failed⟩ := call.forthright_perform.stops client state earlier later action failure
    sent
  exact ⟨last, failed, call.message_of_wording action failure⟩

def savedUntilClosed : Call Unit :=
  .saveList "books" "book" [.single "id" (.string "a"), .single "id" (.string "b"),
    .single "id" (.string "c")]

def closesAfterOne : Scripted := .ofOutcomes [.ok ⟨201, true, none, .null⟩, .error .clientClosed]

theorem closed_client_ends_saving :
    let run := transcript Scripted.client savedUntilClosed.perform closesAfterOne
    run.exchanges.length = 2 ∧ ∃ failure, run.result = .error failure ∧
      failure = .operationFailed "saveDoc" "search client is shut down" ∧
      failure.message = "saveDoc failed! search client is shut down" := by
  intro run
  obtain ⟨-, failed, text⟩ := (refuses_early_and_stops_at_failure savedUntilClosed Scripted.client
    closesAfterOne).2 [_] _ _ _ rfl
  exact ⟨rfl, _, failed, rfl, text.trans (by decide +kernel)⟩

end Call

end SearchKit
