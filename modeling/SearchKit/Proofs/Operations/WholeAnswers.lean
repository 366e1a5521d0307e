import SearchKit.Engine.Dialogue
import SearchKit.Proofs.Json.Entries
import SearchKit.Proofs.Engine.Replies

/-!
Searches and batches give the whole answer of the engine or fail. A batch is answered when there is
one response for each search and none of them reports an error; otherwise nothing of it is given,
and the failure says where was searched and what went wrong.
-/

namespace SearchKit

set_option autoImplicit false

variable {σ α : Type}

/-- The client replied that the action succeeded, with this JSON. -/
def Delivers (outcome : Outcome) (json : Json) : Prop :=
  ∃ answer, outcome = .ok answer ∧ answer.succeeded = true ∧ answer.json = json

namespace Json

def ReportsError (json : Json) : Prop :=
  ∃ members, json = .object members ∧ "error" ∈ Entries.names members

/-- An object whose responses are these, as many as there are searches. -/
def Responds (json : Json) (count : Nat) (responses : List Json) : Prop :=
  ∃ members, json = .object members ∧
    Entries.find? "responses" members = some (.array responses) ∧ responses.length = count

theorem reports_error_iff (json : Json) : json.ReportsError ↔ json.member? "error" ≠ none := by
  cases json with
  | object members => simp [ReportsError, member?, Entries.find_eq_none]
  | null | bool _ | number _ | string _ | array _ => simp [ReportsError, member?]

theorem Responds.unique {json : Json} {count : Nat} {responses others : List Json}
    (some : json.Responds count responses) (other : json.Responds count others) :
    others = responses := by
  obtain ⟨members, rfl, found, -⟩ := some
  obtain ⟨_, same, otherFound, -⟩ := other
  injection same with same
  rw [← same, found] at otherFound
  simpa using otherFound.symm

theorem not_reports_error_iff (json : Json) :
    ¬json.ReportsError ↔ Answer.errorText json = none := by
  rw [reports_error_iff, Classical.not_not, Answer.error_text_eq_none]

end Json

/-- The first response that reports an error, and what it says. -/
structure FirstError (responses : List Json) (position : Nat) (reason : String) : Prop where
  reported : ∃ response, responses[position]? = some response ∧ response.ReportsError ∧
    Answer.errorText response = some reason
  first : ∀ earlier < position, ∀ response, responses[earlier]? = some response →
    ¬response.ReportsError

namespace FirstError

variable {response : Json} {rest : List Json} {position : Nat} {reason : String}

theorem not_nil : ¬FirstError [] position reason := by
  intro found
  obtain ⟨response, there, -⟩ := found.reported
  simp at there

theorem cons_of_error {text : String} (faulty : Answer.errorText response = some text) :
    FirstError (response :: rest) position reason ↔ position = 0 ∧ reason = text := by
  have reports : response.ReportsError := by
    by_contra clean
    rw [Json.not_reports_error_iff, faulty] at clean
    contradiction
  constructor
  · intro found
    have atFront : position = 0 := by
      by_contra later
      exact found.first 0 (Nat.pos_of_ne_zero later) response rfl reports
    obtain ⟨other, there, -, said⟩ := found.reported
    rw [atFront, List.getElem?_cons_zero, Option.some.injEq] at there
    rw [← there, faulty, Option.some.injEq] at said
    exact ⟨atFront, said.symm⟩
  · rintro ⟨rfl, rfl⟩
    exact ⟨⟨response, rfl, reports, faulty⟩, by simp⟩

theorem cons_of_clean (clean : Answer.errorText response = none) :
    FirstError (response :: rest) position reason ↔
      ∃ later, position = later + 1 ∧ FirstError rest later reason := by
  have silent := (Json.not_reports_error_iff response).mpr clean
  constructor
  · intro found
    obtain ⟨other, there, reports, said⟩ := found.reported
    cases position with
    | zero =>
        rw [List.getElem?_cons_zero, Option.some.injEq] at there
        exact absurd (there ▸ reports) silent
    | succ later =>
        refine ⟨later, rfl, ⟨other, there, reports, said⟩, ?_⟩
        intro earlier before response there
        exact found.first (earlier + 1) (Nat.succ_lt_succ before) response there
  · rintro ⟨later, rfl, found⟩
    refine ⟨found.reported, ?_⟩
    intro earlier before other there
    cases earlier with
    | zero =>
        rw [List.getElem?_cons_zero, Option.some.injEq] at there
        exact there ▸ silent
    | succ earlier => exact found.first earlier (Nat.lt_of_succ_lt_succ before) other there

end FirstError

namespace Operation

theorem first_error_eq_some (start : Nat) (responses : List Json) (found : Nat) (reason : String) :
    firstError? start responses = some (found, reason) ↔
      ∃ position, found = start + position ∧ FirstError responses position reason := by
  induction responses generalizing start with
  | nil => simp [firstError?, FirstError.not_nil]
  | cons response rest ih =>
      cases said : Answer.errorText response with
      | some text =>
          simp only [firstError?, said, FirstError.cons_of_error said, Option.some.injEq,
            Prod.mk.injEq]
          constructor
          · rintro ⟨rfl, rfl⟩
            exact ⟨0, rfl, rfl, rfl⟩
          · rintro ⟨position, rfl, rfl, rfl⟩
            exact ⟨rfl, rfl⟩
      | none =>
          simp only [firstError?, said, ih, FirstError.cons_of_clean said]
          constructor
          · rintro ⟨later, rfl, first⟩
            exact ⟨later + 1, by omega, later, rfl, first⟩
          · rintro ⟨_, rfl, later, rfl, first⟩
            exact ⟨later, by omega, first⟩

/-! ## What is given -/

theorem judge_eq_ok (outcome : Outcome) (answer : Answer) :
    judge outcome = .ok answer ↔ outcome = .ok answer ∧ answer.succeeded = true := by
  cases outcome with
  | error failure => simp [judge]
  | ok given =>
      simp only [judge, Except.ok.injEq]
      split
      · rename_i succeeded
        constructor
        · intro same
          injection same with same
          exact ⟨same, same ▸ succeeded⟩
        · rintro ⟨rfl, -⟩
          rfl
      · rename_i refused
        simp only [reduceCtorEq, false_iff, not_and]
        rintro rfl
        exact refused

theorem judged_bind_eq {outcome : Outcome} {further : Json → Except SearchFault α}
    {result : Except SearchFault α} (late : ∀ failure, result ≠ .error (.clientFailed failure))
    (own : ∀ status reason, result ≠ .error (.refusedByEngine status reason)) :
    ((judge outcome).bind fun answer => further answer.json) = result ↔
      ∃ json, Delivers outcome json ∧ further json = result := by
  cases verdict : judge outcome with
  | ok answer =>
      obtain ⟨given, succeeded⟩ := (judge_eq_ok outcome answer).mp verdict
      constructor
      · intro same
        exact ⟨answer.json, ⟨answer, given, succeeded, rfl⟩, same⟩
      · rintro ⟨_, ⟨other, sameOutcome, -, rfl⟩, same⟩
        rw [given] at sameOutcome
        injection sameOutcome with sameAnswer
        exact sameAnswer ▸ same
  | error fault =>
      constructor
      · intro same
        exfalso
        rw [← same] at late own
        cases outcome with
        | error failure =>
            injection verdict with isFault
            exact late _ (congrArg Except.error isFault.symm)
        | ok answer =>
            rw [judge] at verdict
            split at verdict
            · contradiction
            · injection verdict with isFault
              exact own _ _ (congrArg Except.error isFault.symm)
      · rintro ⟨_, ⟨answer, given, succeeded, -⟩, -⟩
        rw [(judge_eq_ok outcome answer).mpr ⟨given, succeeded⟩] at verdict
        contradiction

/-- Either there is a response for each search, and the first error among them counts, or the answer
is refused as a whole. -/
theorem answers_of_cases (searches : List Search) (json : Json) :
    (∃ responses, json.Responds searches.length responses ∧
      answersOf searches json =
        match firstError? 0 responses with
        | some (position, reason) => .error (.subSearch position reason)
        | none => .ok responses) ∨
    ((∀ responses, ¬json.Responds searches.length responses) ∧
      ∃ fault, answersOf searches json = .error fault ∧
        ∀ position reason, fault ≠ .subSearch position reason) := by
  unfold answersOf
  split
  · rename_i members
    split
    · rename_i responses found
      split
      · rename_i counted
        exact .inl ⟨responses, ⟨members, rfl, found, counted⟩, rfl⟩
      · rename_i miscounted
        refine .inr ⟨?_, _, rfl, by simp⟩
        rintro other ⟨_, same, otherFound, counted⟩
        injection same with same
        rw [← same, found] at otherFound
        simp only [Option.some.injEq, Json.array.injEq] at otherFound
        exact miscounted (otherFound ▸ counted)
    · rename_i noArray
      refine .inr ⟨?_, _, rfl, by simp⟩
      rintro responses ⟨_, same, found, -⟩
      injection same with same
      exact noArray responses (same ▸ found)
  · rename_i noObject
    refine .inr ⟨?_, _, rfl, by simp⟩
    rintro responses ⟨members, same, -⟩
    exact noObject members same

theorem answers_of_eq_ok (searches : List Search) (json : Json) (responses : List Json) :
    answersOf searches json = .ok responses ↔
      json.Responds searches.length responses ∧ ∀ response ∈ responses, ¬response.ReportsError := by
  have clean (listed : List Json) :
      (∀ response ∈ listed, ¬response.ReportsError) ↔ firstError? 0 listed = none := by
    simp only [first_error_eq_none, Json.reports_error_iff, Classical.not_not]
  rw [clean]
  rcases answers_of_cases searches json with ⟨listed, responds, given⟩ | ⟨silent, fault, given, -⟩
  · rw [given]
    cases first : firstError? 0 listed with
    | some found =>
        simp only [reduceCtorEq, false_iff, not_and]
        intro other
        rw [responds.unique other, first]
        simp
    | none =>
        simp only [Except.ok.injEq]
        constructor
        · rintro rfl
          exact ⟨responds, first⟩
        · rintro ⟨other, -⟩
          exact (responds.unique other).symm
  · simp [given, silent responses]

theorem answers_of_eq_sub_search (searches : List Search) (json : Json) (position : Nat)
    (reason : String) :
    answersOf searches json = .error (.subSearch position reason) ↔
      ∃ responses, json.Responds searches.length responses ∧
        FirstError responses position reason := by
  have named (listed : List Json) :
      FirstError listed position reason ↔ firstError? 0 listed = some (position, reason) := by
    rw [first_error_eq_some]
    simp
  simp only [named]
  rcases answers_of_cases searches json with
    ⟨listed, responds, given⟩ | ⟨silent, fault, given, other⟩
  · rw [given]
    constructor
    · intro failed
      refine ⟨listed, responds, ?_⟩
      cases first : firstError? 0 listed with
      | some found => simpa [first, Prod.ext_iff] using failed
      | none => simp [first] at failed
    · rintro ⟨same, others, first⟩
      rw [responds.unique others] at first
      rw [first]
  · constructor
    · intro failed
      rw [given] at failed
      injection failed with same
      exact absurd same (other position reason)
    · rintro ⟨responses, responds, -⟩
      exact absurd responds (silent responses)

/-! ## How a search fails -/

/-- One action is performed. A failure is that of a search, with the place that was searched in
brackets before its reason, and it repeats what a reply without success says. -/
structure SearchesOnce (action : Action) (outcome : Outcome)
    (run : Transcript σ (Except Failure α)) : Prop where
  once : run.exchanges = [⟨action, outcome⟩]
  located : ∀ failure, run.result = .error failure → ∃ fault,
    failure = .searchFailed action.uri fault ∧
      failure.message = "search failed! [" ++ action.uri ++ "] " ++ fault.message
  quoted : ∀ status body, outcome = .ok (.ofParts status body) →
    (Answer.ofParts status body).succeeded = false →
      ∃ reason fault, (Answer.ofParts status body).errorMessage = some reason ∧
        run.result = .error (.searchFailed action.uri fault) ∧
        fault.message = "engine returned HTTP " ++ toString status.toNat ++ (". es msg: " ++ reason)

theorem status_of_parts (status : UInt16) (body : String) :
    (Answer.ofParts status body).status = status := by
  unfold Answer.ofParts
  dsimp only
  split
  · split <;> rfl
  · rfl

theorem reason_of_parts {status : UInt16} {body : String}
    (refused : (Answer.ofParts status body).succeeded = false) :
    ∃ reason, (Answer.ofParts status body).errorMessage = some reason := by
  unfold Answer.ofParts at refused ⊢
  dsimp only at refused ⊢
  split at refused
  · split at refused
    · rename_i good reported
      exact ⟨_, by rw [if_pos good, if_pos reported]⟩
    · contradiction
  · rename_i bad
    exact ⟨_, by rw [if_neg bad]⟩

theorem result_of_concluded (action : Action) (turn : Turn σ) (verdict : Except SearchFault α)
    (finished : α → LogEvent) :
    (concluded action turn verdict finished).result = verdict.mapError (.searchFailed action.uri) :=
  rfl

theorem searches_once_of_concluded (action : Action) (turn : Turn σ)
    (further : Answer → Except SearchFault α) (finished : α → LogEvent) :
    SearchesOnce action turn.outcome
      (concluded action turn ((judge turn.outcome).bind further) finished) where
  once := rfl
  located := by
    intro failure failed
    simp only [concluded] at failed
    cases verdict : (judge turn.outcome).bind further with
    | ok value => simp [verdict, Except.mapError] at failed
    | error fault =>
        rw [verdict] at failed
        injection failed with same
        exact ⟨fault, same.symm, same ▸ rfl⟩
  quoted := by
    intro status body replied refused
    obtain ⟨reason, said⟩ := reason_of_parts refused
    have verdict : judge turn.outcome = .error (.refusedByEngine status (some reason)) := by
      rw [replied, judge, refused, status_of_parts, said]
      rfl
    refine ⟨reason, .refusedByEngine status (some reason), said, ?_, rfl⟩
    simp only [concluded, verdict]
    rfl

/-! ## Searches and batches -/

theorem search_all_eq_sub_search (client : Client σ) (state : σ) (searches : List Search)
    (position : Nat) (reason : String) :
    (transcript client (searchAll searches) state).result =
        .error (.searchFailed (Action.multiSearch searches).uri (.subSearch position reason)) ↔
      ∃ json responses, Delivers (client.execute state (.multiSearch searches)).outcome json ∧
        json.Responds searches.length responses ∧ FirstError responses position reason := by
  rw [transcript_search_all, result_of_concluded, Checked.map_error_eq_error]
  simp only [Failure.searchFailed.injEq, true_and, exists_eq_right]
  rw [judged_bind_eq (by simp) (by simp)]
  simp only [answers_of_eq_sub_search, exists_and_left]

/-- A search gives the JSON of a reply that succeeded, and a batch the responses in such a reply,
all of them and in their order, when there is one for each search and none reports an error.
Anything else is a failure of the search, whose text tells where it went and what was wrong: when
responses report errors, the place of the first of them and what it says, and when a reply did not
succeed, what it says. One action is performed either way. -/
theorem searches_give_whole_answers_or_fail (client : Client σ) (state : σ) (wanted : Search)
    (searches : List Search) :
    (let outcome := (client.execute state (.search wanted)).outcome
      let run := transcript client (search wanted) state
      SearchesOnce (.search wanted) outcome run ∧
        ∀ json, run.result = .ok json ↔ Delivers outcome json) ∧
    (let outcome := (client.execute state (.multiSearch searches)).outcome
      let run := transcript client (searchAll searches) state
      SearchesOnce (.multiSearch searches) outcome run ∧
        (∀ responses, run.result = .ok responses ↔
          ∃ json, Delivers outcome json ∧ json.Responds searches.length responses ∧
            ∀ response ∈ responses, ¬response.ReportsError) ∧
        (∀ position reason,
          run.result = .error (.searchFailed (Action.multiSearch searches).uri
              (.subSearch position reason)) ↔
            ∃ json responses, Delivers outcome json ∧ json.Responds searches.length responses ∧
              FirstError responses position reason) ∧
        ∀ json responses position reason, Delivers outcome json →
          json.Responds searches.length responses → FirstError responses position reason →
          ∃ failure, run.result = .error failure ∧
            failure.message = "search failed! [" ++ (Action.multiSearch searches).uri ++ "] "
              ++ ("sub search " ++ toString position ++ ". es msg: " ++ reason)) := by
  constructor
  · intro outcome run
    have delivered : (judge outcome).map Answer.json =
        (judge outcome).bind fun answer => .ok answer.json := by
      cases judge outcome <;> rfl
    have ran := transcript_search client wanted state
    dsimp only at ran
    rw [delivered] at ran
    simp only [run, ran]
    refine ⟨searches_once_of_concluded _ _ _ _, fun json => ?_⟩
    rw [result_of_concluded, Checked.map_error_eq_ok, judged_bind_eq (by simp) (by simp)]
    simp
  · intro outcome run
    have named := search_all_eq_sub_search client state searches
    refine ⟨?_, fun responses => ?_, named, ?_⟩
    · simp only [run, transcript_search_all]
      exact searches_once_of_concluded _ _ _ _
    · simp only [run, transcript_search_all]
      rw [result_of_concluded, Checked.map_error_eq_ok, judged_bind_eq (by simp) (by simp)]
      simp only [answers_of_eq_ok, outcome]
    · intro json responses position reason delivers responds first
      exact ⟨_, (named position reason).mpr ⟨json, responses, delivers, responds, first⟩, rfl⟩

def halfAnswered : Scripted :=
  .ofOutcomes [.ok (.success (.single "responses"
    (.array [.emptyObject, .single "error" (.string "no such index")])))]

theorem second_search_is_named :
    ∃ failure,
      resultOf Scripted.client
          (searchAll [⟨["a"], [], .emptyObject⟩, ⟨["b"], [], .emptyObject⟩]) halfAnswered =
        .error failure ∧
      failure.message = "search failed! [_msearch] sub search 1. es msg: no such index" := by
  obtain ⟨-, -, -, -, told⟩ := searches_give_whole_answers_or_fail Scripted.client halfAnswered
    ⟨[], [], .emptyObject⟩ [⟨["a"], [], .emptyObject⟩, ⟨["b"], [], .emptyObject⟩]
  have second : FirstError [.emptyObject, .single "error" (.string "no such index")] 1
      "no such index" := by
    rw [FirstError.cons_of_clean rfl]
    exact ⟨0, rfl, (FirstError.cons_of_error rfl).mpr ⟨rfl, rfl⟩⟩
  obtain ⟨failure, failed, text⟩ := told _ _ 1 "no such index" ⟨_, rfl, rfl, rfl⟩
    ⟨_, rfl, rfl, rfl⟩ second
  exact ⟨failure, failed, text.trans (by decide +kernel)⟩

end Operation

end SearchKit
