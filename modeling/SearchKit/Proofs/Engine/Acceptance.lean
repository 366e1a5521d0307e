import SearchKit.Engine.Http
import SearchKit.Proofs.Engine.Running

/-!
Which actions an engine accepted. An exchange over a transport ends with the answer of a reply or
with a failure, and an operation vouches for its actions when its yes means that all of them were
accepted.
-/

namespace SearchKit

set_option autoImplicit false

variable {σ τ α β : Type}

/-! ## Exchanges -/

namespace Exchange

/-- There was an answer, whatever it said. -/
def HasAnswer (exchange : Exchange) : Prop := ∃ answer, exchange.outcome = .ok answer

def Succeeded (exchange : Exchange) : Prop :=
  ∃ answer, exchange.outcome = .ok answer ∧ answer.succeeded = true

def Rejected (exchange : Exchange) : Prop :=
  ∃ answer, exchange.outcome = .ok answer ∧ answer.succeeded = false

def Failed (exchange : Exchange) : Prop := ∃ failure, exchange.outcome = .error failure

/-- The transport brought a reply, and the outcome is what the client makes of it. -/
def Answered (transport : Transport τ) (exchange : Exchange) : Prop :=
  ∃ wire request reply, (transport.send wire request).1 = .ok reply ∧
    exchange.outcome = HttpClient.outcomeOf (.ok reply)

/-- The transport brought a reply that counts as a success. -/
def Accepted (transport : Transport τ) (exchange : Exchange) : Prop :=
  ∃ wire request reply, (transport.send wire request).1 = .ok reply ∧
    exchange.outcome = HttpClient.outcomeOf (.ok reply) ∧
    (Answer.ofParts reply.status reply.body).succeeded = true

variable {transport : Transport τ} {exchange : Exchange}

theorem Succeeded.not_rejected (succeeded : exchange.Succeeded) : ¬exchange.Rejected := by
  obtain ⟨answer, outcome, yes⟩ := succeeded
  rintro ⟨other, sameOutcome, no⟩
  rw [outcome] at sameOutcome
  injection sameOutcome with same
  rw [same, no] at yes
  contradiction

theorem Failed.not_has_answer (failed : exchange.Failed) : ¬exchange.HasAnswer := by
  obtain ⟨failure, outcome⟩ := failed
  rintro ⟨answer, sameOutcome⟩
  rw [outcome] at sameOutcome
  contradiction

theorem Failed.not_succeeded (failed : exchange.Failed) : ¬exchange.Succeeded := by
  rintro ⟨answer, outcome, -⟩
  exact failed.not_has_answer ⟨answer, outcome⟩

theorem Failed.not_rejected (failed : exchange.Failed) : ¬exchange.Rejected := by
  rintro ⟨answer, outcome, -⟩
  exact failed.not_has_answer ⟨answer, outcome⟩

theorem Answered.has_answer (answered : exchange.Answered transport) : exchange.HasAnswer := by
  obtain ⟨_, request, reply, -, outcome⟩ := answered
  exact ⟨_, outcome⟩

theorem Accepted.succeeded (accepted : exchange.Accepted transport) : exchange.Succeeded := by
  obtain ⟨_, request, reply, -, outcome, succeeded⟩ := accepted
  exact ⟨_, outcome, succeeded⟩

def FromReply (transport : Transport τ) (exchange : Exchange) : Prop :=
  exchange.HasAnswer → exchange.Answered transport

theorem FromReply.accepted (fromReply : exchange.FromReply transport)
    (succeeded : exchange.Succeeded) : exchange.Accepted transport := by
  obtain ⟨answer, outcome, isSuccess⟩ := succeeded
  obtain ⟨wire, request, reply, sent, sameOutcome⟩ := fromReply ⟨answer, outcome⟩
  refine ⟨wire, request, reply, sent, sameOutcome, ?_⟩
  rw [outcome, HttpClient.outcomeOf] at sameOutcome
  injection sameOutcome with same
  rw [← same, isSuccess]

end Exchange

/-- What holds of every single exchange with a client holds of all exchanges of a dialogue. -/
theorem Dialogue.all_of_run {holds : Exchange → Prop} (client : Client σ)
    (each : ∀ state action, holds ⟨action, (client.execute state action).outcome⟩)
    (dialogue : Dialogue α) (state : σ) :
    ∀ exchange ∈ (dialogue.run client state).exchanges, holds exchange := by
  induction dialogue generalizing state with
  | done result => simp [run]
  | record event next ih => exact ih state
  | perform action next ih =>
      exact List.forall_mem_cons.mpr ⟨each state action, ih _ _⟩

theorem HttpClient.from_reply_of_execute (transport : Transport τ) (state : HttpClient × τ)
    (action : Action) :
    Exchange.FromReply transport ⟨action, (execute transport state action).outcome⟩ := by
  rintro ⟨answer, outcome⟩
  unfold execute at outcome ⊢
  cases started : (state.1.start action).request with
  | error failure =>
      simp only [started] at outcome
      contradiction
  | ok request =>
      simp only [started] at outcome ⊢
      cases sent : (transport.send state.2 request).1 with
      | error fault =>
          rw [sent] at outcome
          contradiction
      | ok reply => exact ⟨state.2, request, reply, sent, rfl⟩

/-! ## Acknowledged actions -/

namespace Operation

theorem transcript_acknowledge (client : Client σ) (action : Action) (state : σ) :
    transcript client (acknowledge action) state =
      let turn := client.execute state action
      { result :=
          match turn.outcome with
          | .ok answer => .ok answer.succeeded
          | .error failure => .error (.operationFailed action.name failure.message)
        exchanges := [⟨action, turn.outcome⟩]
        events :=
          turn.events ++
            [match turn.outcome with
              | .ok answer =>
                  if answer.succeeded then .accepted action else .rejected action answer
              | .error failure => .clientFailed action failure]
        state := turn.state } := by
  simp only [acknowledge, transcript_bind, transcript_execute]
  cases outcome : (client.execute state action).outcome with
  | error failure => simp [transcript_bind]
  | ok answer => simp [Except.map]

/-- A yes of the operation means that every action it performed succeeded. -/
def Vouches (operation : Operation Bool) : Prop :=
  ∀ {σ : Type} (client : Client σ) (state : σ),
    (transcript client operation state).result = .ok true →
      ∀ exchange ∈ (transcript client operation state).exchanges, exchange.Succeeded

end Operation

end SearchKit
