import SearchKit.Engine.Dialogue
import SearchKit.Operations.Writing
import SearchKit.Proofs.Engine.Acceptance

/-!
Saving a list of documents on any client. The documents that have an id are sent one after another,
a rejection stops nothing, and the first failure of the client is the end: what was sent until then
is the front of what was to be sent, with the failing action last.
-/

namespace SearchKit

set_option autoImplicit false

variable {σ : Type}

/-- What a client does with actions that it is given one after another, whatever comes of them. -/
def Client.exchanges (client : Client σ) (state : σ) : List Action → List Exchange
  | [] => []
  | action :: rest =>
      let turn := client.execute state action
      ⟨action, turn.outcome⟩ :: client.exchanges turn.state rest

theorem Client.actions_of_exchanges (client : Client σ) (state : σ) (actions : List Action) :
    (client.exchanges state actions).map Exchange.action = actions := by
  induction actions generalizing state with
  | nil => rfl
  | cons action rest ih => rw [exchanges, List.map_cons, ih]

namespace Operation

def stateAfter (client : Client σ) (state : σ) (actions : List Action) : σ :=
  actions.foldl (fun state action => (client.execute state action).state) state

def savings (index docType : String) (idOf : Json → Option String) (documents : List Json) :
    List Action :=
  documents.filterMap fun document =>
    (idOf document).map fun id => .indexDocument index docType (some id) document

/-- How saving ends when all exchanges would be `all`: with all of them when the client answers each
time, else with those up to its first failure, which is what it reports. -/
inductive SavesUntilFailure (all : List Exchange) :
    List Exchange → Except Failure Unit → Prop where
  | whole (answered : ∀ exchange ∈ all, exchange.HasAnswer) : SavesUntilFailure all all (.ok ())
  | interrupted (earlier : List Exchange) (last : Exchange) (unsent : List Exchange)
      {failure : Failure} (split : all = earlier ++ last :: unsent)
      (answered : ∀ exchange ∈ earlier, exchange.HasAnswer)
      (failed : last.outcome = .error failure) :
      SavesUntilFailure all (earlier ++ [last])
        (.error (.operationFailed "saveDoc" failure.message))

theorem SavesUntilFailure.after {exchange : Exchange} (answered : exchange.HasAnswer)
    {all sent : List Exchange} {result : Except Failure Unit}
    (further : SavesUntilFailure all sent result) :
    SavesUntilFailure (exchange :: all) (exchange :: sent) result := by
  cases further with
  | whole each => exact .whole (List.forall_mem_cons.mpr ⟨answered, each⟩)
  | interrupted earlier last unsent split each failed =>
      refine .interrupted (exchange :: earlier) last unsent ?_
        (List.forall_mem_cons.mpr ⟨answered, each⟩) failed
      rw [split, List.cons_append]

theorem SavesUntilFailure.result_iff {all sent : List Exchange} {result : Except Failure Unit}
    (saves : SavesUntilFailure all sent result) :
    result = .ok () ↔ ∀ exchange ∈ sent, exchange.HasAnswer := by
  cases saves with
  | whole answered => exact iff_of_true rfl answered
  | interrupted earlier last unsent split answered failed =>
      refine iff_of_false (by simp) fun each => ?_
      exact Exchange.Failed.not_has_answer ⟨_, failed⟩ (each last (by simp))

theorem SavesUntilFailure.of_answered {all sent : List Exchange} {result : Except Failure Unit}
    (saves : SavesUntilFailure all sent result) (answered : ∀ exchange ∈ all, exchange.HasAnswer) :
    sent = all ∧ result = .ok () := by
  cases saves with
  | whole _ => exact ⟨rfl, rfl⟩
  | interrupted earlier last unsent split _ failed =>
      exact absurd (answered last (by simp [split])) (Exchange.Failed.not_has_answer ⟨_, failed⟩)

/-- Saving one document of several: whether it was accepted is not looked at, and only a failure of
the client ends it all. -/
theorem transcript_save_one (client : Client σ) (index docType id : String) (document : Json)
    (state : σ) :
    let action := Action.indexDocument index docType (some id) document
    let turn := client.execute state action
    let single := transcript client (discard (saveDocument index docType (some id) document)) state
    single.exchanges = [⟨action, turn.outcome⟩] ∧ single.state = turn.state ∧
      single.result =
        match turn.outcome with
        | .ok _ => .ok ()
        | .error failure => .error (.operationFailed "saveDoc" failure.message) := by
  intro action turn single
  have discarded : discard (saveDocument index docType (some id) document) =
      (fun _ => ()) <$> acknowledge action := rfl
  simp only [single, discarded, transcript_map, transcript_acknowledge]
  refine ⟨rfl, rfl, ?_⟩
  change _ = match turn.outcome with | .ok _ => _ | .error failure => _
  cases turn.outcome with
  | error failure => rfl
  | ok answer => rfl

theorem save_each_until_failure (client : Client σ) (index docType : String)
    (idOf : Json → Option String) (documents : List Json) (state : σ) :
    let run := transcript client (saveEach index docType idOf documents) state
    let planned := savings index docType idOf documents
    SavesUntilFailure (client.exchanges state planned) run.exchanges run.result ∧
      run.state = stateAfter client state (run.exchanges.map Exchange.action) := by
  intro run planned
  induction documents generalizing state with
  | nil => exact ⟨.whole (by simp [planned, savings, Client.exchanges]), rfl⟩
  | cons document rest ih =>
      cases named : idOf document with
      | none =>
          have skipped : saveEach index docType idOf (document :: rest) =
              saveEach index docType idOf rest := by
            rw [saveEach, named]
          have unnamed : savings index docType idOf (document :: rest) =
              savings index docType idOf rest := by
            simp [savings, named]
          simp only [run, planned, skipped, unnamed]
          exact ih state
      | some id =>
          have shape : saveEach index docType idOf (document :: rest) =
              discard (saveDocument index docType (some id) document) >>= fun _ =>
                saveEach index docType idOf rest := by
            rw [saveEach, named]
          have first : savings index docType idOf (document :: rest) =
              .indexDocument index docType (some id) document ::
                savings index docType idOf rest := by
            simp [savings, named]
          obtain ⟨exchanges, after, result⟩ :=
            transcript_save_one client index docType id document state
          simp only [run, planned, shape, first, transcript_bind, Client.exchanges, exchanges,
            after, result]
          cases outcome : (client.execute state
              (.indexDocument index docType (some id) document)).outcome with
          | error failure =>
              exact ⟨.interrupted [] _ _ rfl (by simp) rfl, rfl⟩
          | ok answer =>
              obtain ⟨saves, further⟩ := ih (client.execute state
                (.indexDocument index docType (some id) document)).state
              exact ⟨saves.after ⟨answer, rfl⟩, further⟩

theorem save_list_result_iff (client : Client σ) (index docType : String) (documents : List Json)
    (state : σ) :
    let whole := transcript client
      (do saveList index docType documents; return true : Operation Bool) state
    (documents = [] ∧ whole.exchanges = []) ∨
      (whole.result = .ok true ↔ ∀ exchange ∈ whole.exchanges, exchange.HasAnswer) := by
  intro whole
  cases documents with
  | nil =>
      have refused : saveList index docType [] = throw (.invalidRequest .noDocuments) := rfl
      left
      simp only [whole, refused, transcript_bind, transcript_throw]
      exact ⟨trivial, trivial⟩
  | cons first rest =>
      have loop : saveList index docType (first :: rest) =
          saveEach index docType Json.documentId? (first :: rest) := rfl
      have ends := (save_each_until_failure client index docType Json.documentId? (first :: rest)
        state).1.result_iff
      right
      simp only [whole, loop, transcript_bind, transcript_pure]
      cases ended : (transcript client
          (saveEach index docType Json.documentId? (first :: rest)) state).result with
      | error failure =>
          rw [ended] at ends
          simp only [← ends, reduceCtorEq]
      | ok value =>
          have answered := ends.mp ended
          simpa using answered

/-- Saving a list sends the documents that have an id, each once and unchanged under its id, in
their order, up to the first on which the client fails; a document that is only rejected does not
stop it. That failure is what it reports, and without one it ends well. An empty list is refused,
and nothing is sent. -/
theorem list_is_saved_until_failure (client : Client σ) (index docType : String)
    (idOf : Json → Option String) (documents : List Json) (state : σ) :
    let run := transcript client (saveListBy index docType idOf documents) state
    let planned := documents.filterMap fun document =>
      (idOf document).map fun id => Action.indexDocument index docType (some id) document
    let all := client.exchanges state planned
    all.map Exchange.action = planned ∧
    (documents = [] →
      run.result = .error (.invalidRequest .noDocuments) ∧ run.exchanges = []) ∧
    (documents ≠ [] →
      (run.exchanges = all ∧ (∀ exchange ∈ all, exchange.HasAnswer) ∧ run.result = .ok ()) ∨
      ∃ earlier last unsent failure, all = earlier ++ last :: unsent ∧
        run.exchanges = earlier ++ [last] ∧ (∀ exchange ∈ earlier, exchange.HasAnswer) ∧
        last.outcome = .error failure ∧
        run.result = .error (.operationFailed "saveDoc" failure.message)) := by
  intro run planned all
  refine ⟨client.actions_of_exchanges state planned, ?_, fun given => ?_⟩
  · rintro rfl
    exact ⟨rfl, rfl⟩
  · have loop : saveListBy index docType idOf documents =
        saveEach index docType idOf documents := by
      simp [saveListBy, given]
    have saves := (save_each_until_failure client index docType idOf documents state).1
    simp only [run, loop]
    generalize (transcript client (saveEach index docType idOf documents) state).exchanges = sent
      at saves ⊢
    generalize (transcript client (saveEach index docType idOf documents) state).result = result
      at saves ⊢
    cases saves with
    | whole answered => exact .inl ⟨rfl, answered, rfl⟩
    | interrupted earlier last unsent split answered failed =>
        exact .inr ⟨earlier, last, unsent, _, split, rfl, answered, failed, rfl⟩

def fourNotes : List Json := [.string "a", .null, .string "b", .string "c"]

def rejectsThenCloses : Scripted :=
  .ofOutcomes [.ok ⟨400, false, some "HTTP 400", .null⟩, .error .clientClosed,
    .ok ⟨201, true, none, .null⟩]

theorem four_notes_are_saved_until_failure :
    let run := transcript Scripted.client
      (saveListBy "notes" "note" Json.asString? fourNotes) rejectsThenCloses
    run.exchanges.length = 2 ∧
      run.result = .error (.operationFailed "saveDoc" "search client is shut down") := by
  intro run
  have saved := (list_is_saved_until_failure Scripted.client "notes" "note" Json.asString? fourNotes
    rejectsThenCloses).2.2 (List.cons_ne_nil _ _)
  refine ⟨rfl, ?_⟩
  rcases saved with ⟨-, -, well⟩ | ⟨earlier, last, unsent, failure, -, sent, -, failed, reported⟩
  · contradiction
  · have isLast := congrArg List.getLast? sent
    rw [List.getLast?_concat] at isLast
    injection isLast with isLast
    rw [← isLast] at failed
    injection failed with closed
    rw [← closed] at reported
    exact reported

end Operation

end SearchKit
