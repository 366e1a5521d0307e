import Mathlib.Data.List.Basic
import SearchKit.Engine.Exchange

/-!
Operations run against a client: the transcript of one step after another, and the whole transcript
of a search and of a batch. Each of the two performs its one action and records two events of its
own, of which the second tells how the search ended.
-/

namespace SearchKit

set_option autoImplicit false

variable {σ α β : Type}

namespace Operation

def transcript (client : Client σ) (operation : Operation α) (state : σ) :
    Transcript σ (Except Failure α) :=
  Dialogue.run client operation.run state

def resultOf (client : Client σ) (operation : Operation α) (state : σ) : Except Failure α :=
  (transcript client operation state).result

@[simp] theorem transcript_pure (client : Client σ) (value : α) (state : σ) :
    transcript client (pure value) state = ⟨.ok value, [], [], state⟩ := rfl

@[simp] theorem transcript_throw (client : Client σ) (failure : Failure) (state : σ) :
    transcript client (throw failure : Operation α) state = ⟨.error failure, [], [], state⟩ := rfl

@[simp] theorem transcript_log (client : Client σ) (event : LogEvent) (state : σ) :
    transcript client (log event) state = ⟨.ok (), [], [event], state⟩ := rfl

@[simp] theorem transcript_execute (client : Client σ) (action : Action) (state : σ) :
    transcript client (execute action) state =
      ⟨.ok (client.execute state action).outcome,
        [⟨action, (client.execute state action).outcome⟩],
        (client.execute state action).events, (client.execute state action).state⟩ := by
  simp [transcript, execute, Dialogue.performed, Dialogue.run, ExceptT.run, ExceptT.lift,
    ExceptT.mk, Functor.map, Dialogue.bind]

theorem transcript_bind (client : Client σ) (operation : Operation α) (next : α → Operation β)
    (state : σ) :
    transcript client (operation >>= next) state =
      let first := transcript client operation state
      match first.result with
      | .error failure => ⟨.error failure, first.exchanges, first.events, first.state⟩
      | .ok value =>
          let second := transcript client (next value) first.state
          ⟨second.result, first.exchanges ++ second.exchanges, first.events ++ second.events,
            second.state⟩ := by
  simp only [transcript, ExceptT.run_bind, Dialogue.run_bind]
  cases (Dialogue.run client operation.run state).result with
  | ok value => rfl
  | error failure => simp [Pure.pure, Dialogue.run]

@[simp] theorem transcript_map (client : Client σ) (change : α → β) (operation : Operation α)
    (state : σ) :
    transcript client (change <$> operation) state =
      let first := transcript client operation state
      ⟨first.result.map change, first.exchanges, first.events, first.state⟩ := by
  rw [← bind_pure_comp, transcript_bind]
  cases ended : (transcript client operation state).result <;> simp [Except.map, ended]

def judge : Outcome → Except SearchFault Answer
  | .error failure => .error (.clientFailed failure.message)
  | .ok answer =>
      if answer.succeeded then .ok answer
      else .error (.refusedByEngine answer.status answer.errorMessage)

/-- The transcript of a search: its action with what the client did, and its own events around. -/
def concluded (action : Action) (turn : Turn σ) (verdict : Except SearchFault α)
    (finished : α → LogEvent) : Transcript σ (Except Failure α) where
  result := verdict.mapError (.searchFailed action.uri)
  exchanges := [⟨action, turn.outcome⟩]
  events :=
    .searchStarted action :: (turn.events ++
      [match verdict with
        | .ok value => finished value
        | .error fault => .searchFailed action fault])
  state := turn.state

theorem transcript_fail_search (client : Client σ) (action : Action) (fault : SearchFault)
    (state : σ) :
    transcript client (failSearch action fault : Operation α) state =
      ⟨.error (.searchFailed action.uri fault), [], [.searchFailed action fault], state⟩ := by
  simp [failSearch, transcript_bind]

theorem transcript_answered (client : Client σ) (action : Action) (state : σ) :
    transcript client (answered action) state =
      let turn := client.execute state action
      { result := (judge turn.outcome).mapError (.searchFailed action.uri)
        exchanges := [⟨action, turn.outcome⟩]
        events :=
          .searchStarted action :: (turn.events ++
            match judge turn.outcome with
            | .ok _ => []
            | .error fault => [.searchFailed action fault])
        state := turn.state } := by
  simp only [answered, transcript_bind, transcript_log, transcript_execute]
  cases outcome : (client.execute state action).outcome with
  | error failure => simp [judge, transcript_fail_search, Except.mapError]
  | ok answer =>
      by_cases accepted : answer.succeeded = true
      · simp [judge, accepted, Except.mapError]
      · simp [judge, accepted, transcript_fail_search, Except.mapError]

theorem transcript_search (client : Client σ) (wanted : Search) (state : σ) :
    transcript client (search wanted) state =
      let turn := client.execute state (.search wanted)
      concluded (.search wanted) turn ((judge turn.outcome).map Answer.json) fun json =>
        .searchFinished (.search wanted) (shownOption (Hits.took? json))
          (shownOption (Hits.total? json)) := by
  simp only [search, transcript_bind, transcript_answered, concluded]
  cases judge (client.execute state (.search wanted)).outcome with
  | error fault => simp [Except.mapError, Except.map]
  | ok answer => simp [Except.mapError, Except.map]

theorem transcript_search_all (client : Client σ) (searches : List Search) (state : σ) :
    transcript client (searchAll searches) state =
      let turn := client.execute state (.multiSearch searches)
      concluded (.multiSearch searches) turn
        ((judge turn.outcome).bind fun answer => answersOf searches answer.json) fun answers =>
          .searchFinished (.multiSearch searches) (shownOptions (answers.map Hits.took?))
            (shownOptions (answers.map Hits.total?)) := by
  simp only [searchAll, transcript_bind, transcript_answered, concluded]
  cases judge (client.execute state (.multiSearch searches)).outcome with
  | error fault => simp [Except.mapError, Except.bind]
  | ok answer =>
      cases found : answersOf searches answer.json with
      | error fault => simp [Except.mapError, Except.bind, found, transcript_fail_search]
      | ok answers => simp [Except.mapError, Except.bind, Except.map, found]

end Operation

end SearchKit
