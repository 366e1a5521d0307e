import SearchKit.Engine.Action
import SearchKit.Engine.Answer
import SearchKit.Engine.Failure

/-!
Dialogues with the engine. An operation of the library is a value that says which actions it
performs, which events it records and what it does with each outcome; it sends nothing by itself.
Running it against a client gives its result together with all exchanges and events.
-/

namespace SearchKit

set_option autoImplicit false

inductive LogLevel where
  | error
  | warning
  | info
  | debug
deriving DecidableEq, Repr

def LogLevel.name : LogLevel → String
  | .error => "ERROR"
  | .warning => "WARN"
  | .info => "INFO"
  | .debug => "DEBUG"

inductive LogValue where
  | text (value : String)
  | count (value : Nat)
deriving DecidableEq, Repr

structure LogEvent where
  level : LogLevel
  message : String
  fields : Entries LogValue
deriving DecidableEq, Repr

abbrev Outcome := Except Failure Answer

inductive Dialogue (α : Type) where
  | done (result : α)
  | record (event : LogEvent) (next : Dialogue α)
  | perform (action : Action) (next : Outcome → Dialogue α)

namespace Dialogue

variable {α β γ : Type}

def bind (dialogue : Dialogue α) (further : α → Dialogue β) : Dialogue β :=
  match dialogue with
  | .done result => further result
  | .record event next => .record event (next.bind further)
  | .perform action next => .perform action fun outcome => (next outcome).bind further

instance : Monad Dialogue where
  pure := .done
  bind := bind

@[simp] theorem done_bind (result : α) (next : α → Dialogue β) :
    (Dialogue.done result >>= next) = next result := rfl

@[simp] theorem record_bind (event : LogEvent) (rest : Dialogue α) (next : α → Dialogue β) :
    (Dialogue.record event rest >>= next) = .record event (rest >>= next) := rfl

@[simp] theorem perform_bind (action : Action) (rest : Outcome → Dialogue α)
    (next : α → Dialogue β) :
    (Dialogue.perform action rest >>= next) =
      .perform action fun outcome => rest outcome >>= next := rfl

theorem bind_done (dialogue : Dialogue α) : (dialogue >>= Dialogue.done) = dialogue := by
  induction dialogue with
  | done result => rfl
  | record event next ih => simp [ih]
  | perform action next ih => simp [ih]

theorem bind_assoc (dialogue : Dialogue α) (second : α → Dialogue β) (third : β → Dialogue γ) :
    (dialogue >>= second >>= third) = (dialogue >>= fun result => second result >>= third) := by
  induction dialogue with
  | done result => rfl
  | record event next ih => simp [ih]
  | perform action next ih => simp [ih]

instance : LawfulMonad Dialogue :=
  LawfulMonad.mk' Dialogue bind_done (fun _ _ => rfl) bind_assoc

def recorded (event : LogEvent) : Dialogue Unit := .record event (.done ())

def performed (action : Action) : Dialogue Outcome := .perform action .done

end Dialogue

abbrev Operation (α : Type) := ExceptT Failure Dialogue α

namespace Operation

variable {α : Type}

def log (event : LogEvent) : Operation Unit := ExceptT.lift (Dialogue.recorded event)

def execute (action : Action) : Operation Outcome := ExceptT.lift (Dialogue.performed action)

def ofChecked (checked : Except Refusal α) : Operation α :=
  match checked with
  | .ok value => pure value
  | .error refusal => throw (.invalidRequest refusal)

end Operation

/-- What a client does with an action: the outcome, the events it records itself, its next state. -/
structure Turn (σ : Type) where
  outcome : Outcome
  events : List LogEvent
  state : σ

/-- A client executes actions one by one and may change its state with each. -/
structure Client (σ : Type) where
  execute : σ → Action → Turn σ

structure Exchange where
  action : Action
  outcome : Outcome

/-- A finished dialogue: its result, its exchanges and events in order, and the client's state. -/
structure Transcript (σ α : Type) where
  result : α
  exchanges : List Exchange
  events : List LogEvent
  state : σ

namespace Dialogue

variable {σ α β : Type}

def run (client : Client σ) (dialogue : Dialogue α) (state : σ) : Transcript σ α :=
  match dialogue with
  | .done result => ⟨result, [], [], state⟩
  | .record event next =>
      let rest := next.run client state
      { rest with events := event :: rest.events }
  | .perform action next =>
      let turn := client.execute state action
      let rest := (next turn.outcome).run client turn.state
      { rest with
        exchanges := ⟨action, turn.outcome⟩ :: rest.exchanges
        events := turn.events ++ rest.events }

/-- Running one dialogue after another appends what the second did to what the first did. -/
theorem run_bind (client : Client σ) (dialogue : Dialogue α) (next : α → Dialogue β) (state : σ) :
    (dialogue >>= next).run client state =
      let first := dialogue.run client state
      let second := (next first.result).run client first.state
      { second with
        exchanges := first.exchanges ++ second.exchanges
        events := first.events ++ second.events } := by
  induction dialogue generalizing state with
  | done result => simp [run]
  | record event rest ih => simp [run, ih]
  | perform action rest ih => simp [run, ih]

end Dialogue

/-! ## Prepared outcomes -/

/-- A client whose outcomes are prepared beforehand. When none is left it answers that the service
is unavailable, and after it was shut down it refuses every action. -/
structure Scripted where
  outcomes : List Outcome
  opened : Bool

namespace Scripted

def ofOutcomes (outcomes : List Outcome) : Scripted := ⟨outcomes, true⟩

def shutDown (script : Scripted) : Scripted := { script with opened := false }

def execute (script : Scripted) (_ : Action) : Turn Scripted :=
  if script.opened then
    match script.outcomes with
    | outcome :: rest => ⟨outcome, [], { script with outcomes := rest }⟩
    | [] => ⟨.ok (Answer.ofParts 503 ""), [], script⟩
  else ⟨.error .clientClosed, [], script⟩

def client : Client Scripted := ⟨execute⟩

end Scripted

end SearchKit
