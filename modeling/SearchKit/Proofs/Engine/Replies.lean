import SearchKit.Proofs.Checked
import SearchKit.Proofs.Engine.Running

/-!
Replies of an engine as a status and a JSON body. A reply succeeds or fails in its status and its
body alike; whether it does is what a search and a batch find out in two different ways.
-/

namespace SearchKit

set_option autoImplicit false

structure Reply where
  status : UInt16
  json : Json
deriving DecidableEq, Repr

namespace Answer

theorem status_succeeds_iff (status : UInt16) :
    statusSucceeds status = true ↔ 200 ≤ status.toNat ∧ status.toNat < 300 := by
  simp [statusSucceeds, UInt16.le_iff_toNat_le, UInt16.lt_iff_toNat_lt]

theorem error_text_eq_none (json : Json) :
    errorText json = none ↔ json.member? "error" = none := by
  unfold errorText
  cases json.member? "error" with
  | none => simp
  | some error =>
      cases error with
      | object members => dsimp only; split <;> simp
      | null | bool _ | number _ | string _ | array _ => simp

end Answer

namespace Reply

def answer (reply : Reply) : Answer :=
  if Answer.statusSucceeds reply.status then
    if (reply.json.member? "errors").bind Json.asBool? = some true then
      ⟨reply.status, false, some "one or more bulk items failed", reply.json⟩
    else ⟨reply.status, true, none, reply.json⟩
  else
    ⟨reply.status, false,
      some ((Answer.errorText reply.json).getD ("HTTP " ++ toString reply.status.toNat)),
      reply.json⟩

theorem of_parts_eq_answer (status : UInt16) (body : String) :
    Answer.ofParts status body = (Reply.mk status (Answer.bodyJson body)).answer := rfl

@[simp] theorem answer_json (reply : Reply) : reply.answer.json = reply.json := by
  unfold answer
  split
  · split <;> rfl
  · rfl

/-- A good status with an object that reports no error of any kind. -/
structure Succeeds (reply : Reply) : Prop where
  good : 200 ≤ reply.status.toNat ∧ reply.status.toNat < 300
  isObject : reply.json.isObject = true
  noError : reply.json.member? "error" = none
  noErrors : reply.json.member? "errors" ≠ some (.bool true)

/-- A bad status with an object that says what went wrong. -/
structure Fails (reply : Reply) : Prop where
  bad : reply.status.toNat < 200 ∨ 300 ≤ reply.status.toNat
  isObject : reply.json.isObject = true
  error : reply.json.member? "error" ≠ none

theorem Succeeds.succeeded {reply : Reply} (succeeds : reply.Succeeds) :
    reply.answer.succeeded = true := by
  have good := (Answer.status_succeeds_iff reply.status).mpr succeeds.good
  have quiet : ¬(reply.json.member? "errors").bind Json.asBool? = some true := by
    intro reported
    obtain ⟨value, found, isTrue⟩ := Option.bind_eq_some_iff.mp reported
    cases value with
    | bool flag =>
        have set : flag = true := by simpa [Json.asBool?] using isTrue
        exact succeeds.noErrors (by rw [found, set])
    | null | number _ | string _ | array _ | object _ => simp [Json.asBool?] at isTrue
  simp [answer, good, quiet]

theorem Fails.not_succeeded {reply : Reply} (fails : reply.Fails) :
    reply.answer.succeeded = false := by
  have bad : ¬Answer.statusSucceeds reply.status = true := by
    rw [Answer.status_succeeds_iff]
    have outside := fails.bad
    omega
  simp [answer, bad]

theorem Succeeds.judge_eq {reply : Reply} (succeeds : reply.Succeeds) :
    Operation.judge (.ok reply.answer) = .ok reply.answer := by
  simp [Operation.judge, succeeds.succeeded]

theorem Fails.judge_ne {reply : Reply} (fails : reply.Fails) (answer : Answer) :
    Operation.judge (.ok reply.answer) ≠ .ok answer := by
  simp [Operation.judge, fails.not_succeeded]

end Reply

namespace Operation

theorem first_error_eq_none (position : Nat) (answers : List Json) :
    firstError? position answers = none ↔ ∀ json ∈ answers, json.member? "error" = none := by
  induction answers generalizing position with
  | nil => simp [firstError?]
  | cons json rest ih =>
      cases reason : Answer.errorText json with
      | none =>
          have clean := (Answer.error_text_eq_none json).mp reason
          simp [firstError?, reason, ih, clean]
      | some text =>
          have faulty : json.member? "error" ≠ none := by
            rw [ne_eq, ← Answer.error_text_eq_none, reason]
            simp
          simp [firstError?, reason, faulty]

theorem answers_of_responses (searches : List Search) (answers found : List Json)
    (sameLength : answers.length = searches.length) :
    answersOf searches (.single "responses" (.array answers)) = .ok found ↔
      (∀ json ∈ answers, json.member? "error" = none) ∧ found = answers := by
  rw [← first_error_eq_none 0]
  simp only [answersOf, Json.single, Entries.find?, if_pos, sameLength]
  cases firstError? 0 answers with
  | none => simp [eq_comm]
  | some entry => simp

end Operation

end SearchKit
