import SearchKit.Proofs.Engine.Acceptance
import SearchKit.Proofs.Operations.WholeAnswers
import SearchKit.Proofs.Result.Totals
import SearchKit.Proofs.Text.Cutting

/-!
What single exchanges with the engine write to the log of their own accord. A failure is logged
once, in the words in which it is also reported, and only then is there an error in the log. A
search that ends well is logged when it starts and when it has ended, with the counts of each of its
answers.
-/

namespace SearchKit

set_option autoImplicit false

variable {σ α : Type}

/-! ## Counts as texts -/

theorem count_text_injective {count other : UInt64}
    (same : toString count.toNat = toString other.toNat) : count = other := by
  have digits := congrArg (fun text => Nat.ofDigitChars 10 (String.toList text) 0) same
  simp only [Nat.toString_eq_repr, Nat.toList_repr, Nat.ofDigitChars_ten_toDigits] at digits
  exact UInt64.toNat_inj.mp digits

theorem shown_option_injective : Function.Injective shownOption := by
  intro value other same
  have differ (count : UInt64) : shownOption (some count) ≠ shownOption none := by
    intro same
    simpa [shownOption] using congrArg String.toList same
  cases value with
  | none =>
      cases other with
      | none => rfl
      | some count => exact absurd same.symm (differ count)
  | some count =>
      cases other with
      | none => exact absurd same (differ count)
      | some number =>
          rw [shownOption, shownOption, String.append_left_inj, String.append_right_inj] at same
          rw [count_text_injective same]

theorem comma_not_mem_shown_option (value : Option UInt64) : ',' ∉ (shownOption value).toList := by
  cases value with
  | none => decide +kernel
  | some count =>
      intro member
      simp only [shownOption, Nat.toString_eq_repr, String.toList_append, Nat.toList_repr,
        List.mem_append] at member
      rcases member with (member | member) | member
      · exact absurd member (by decide +kernel)
      · exact absurd (Nat.isDigit_of_mem_toDigits (by decide) (by decide) member) (by decide)
      · exact absurd member (by decide +kernel)

theorem listed_eq_join (first : String) (rest : List String) :
    ", ".intercalate (first :: rest) = Text.join "," (first :: rest.map (" " ++ ·)) := by
  have behindBlank (text : String) (more : List String) :
      ", ".intercalate ((" " ++ text) :: more) = " " ++ ", ".intercalate (text :: more) := by
    cases more <;> simp [String.intercalate_cons_cons, String.append_assoc]
  induction rest generalizing first with
  | nil => simp [Text.join]
  | cons second more ih =>
      calc ", ".intercalate (first :: second :: more)
          = first ++ ", " ++ ", ".intercalate (second :: more) := String.intercalate_cons_cons
        _ = first ++ "," ++ ", ".intercalate ((" " ++ second) :: more) := by
          rw [behindBlank, (by decide +kernel : ", " = "," ++ " ")]
          simp only [String.append_assoc]
        _ = first ++ "," ++ Text.join "," ((" " ++ second) :: more.map (" " ++ ·)) := by rw [ih]
        _ = Text.join "," (first :: (second :: more).map (" " ++ ·)) :=
          String.intercalate_cons_cons.symm

theorem split_shown_options (first : Option UInt64) (rest : List (Option UInt64)) :
    Text.split ',' (", ".intercalate ((first :: rest).map shownOption)) =
      shownOption first :: rest.map fun value => " " ++ shownOption value := by
  rw [List.map_cons, listed_eq_join, List.map_map]
  apply Text.split_eq_of_is_cut
  refine ⟨List.cons_ne_nil _ _,
    List.forall_mem_cons.mpr ⟨comma_not_mem_shown_option first, ?_⟩, rfl⟩
  intro part member
  obtain ⟨value, -, rfl⟩ := List.mem_map.mp member
  simpa using comma_not_mem_shown_option value

theorem shown_options_injective : Function.Injective shownOptions := by
  intro values others same
  rw [shownOptions, shownOptions, String.append_left_inj, String.append_right_inj] at same
  have someText (first : Option UInt64) (rest : List (Option UInt64)) :
      ", ".intercalate ((first :: rest).map shownOption) ≠ ", ".intercalate [] := by
    intro none
    have cut := split_shown_options first rest
    rw [none] at cut
    have blank : shownOption first = "" := (List.cons.inj cut).1.symm
    cases first <;> simp [shownOption] at blank
  cases values with
  | nil =>
      cases others with
      | nil => rfl
      | cons first rest => exact absurd same.symm (someText first rest)
  | cons first rest =>
      cases others with
      | nil => exact absurd same (someText first rest)
      | cons head tail =>
          have cuts := congrArg (Text.split ',') same
          rw [split_shown_options, split_shown_options, List.cons.injEq] at cuts
          have eachShown : Function.Injective fun value => " " ++ shownOption value := by
            intro value other equal
            exact shown_option_injective ((String.append_right_inj " ").mp equal)
          rw [shown_option_injective cuts.1, List.map_injective_iff.mpr eachShown cuts.2]

example : shownOptions [some 3, none] = "[Some(3), None]" := by decide

structure LoggedCounts where
  took : Option UInt64
  total : Option UInt64

namespace LoggedCounts

/-- The counts are those of the answer itself, and absent where it gives none. -/
structure Of (json : Json) (counts : LoggedCounts) : Prop where
  took : ∀ count, counts.took = some count ↔ json.member? "took" = some (.ofUInt64 count)
  total : ∀ count, counts.total = some count ↔ Hits.HasTotal json count

def read (json : Json) : LoggedCounts := ⟨Hits.took? json, Hits.total? json⟩

theorem of_read (json : Json) : Of json (read json) where
  took count := by simp [read, Hits.took?, Option.bind_eq_some_iff, Json.as_unsigned_eq_some]
  total count := Hits.total_eq_some json count

end LoggedCounts

/-! ## Own events -/

/-- The client, but for what it logs. -/
def Client.silenced (client : Client σ) : Client σ where
  execute state action := { client.execute state action with events := [] }

namespace Operation

def ownEvents (client : Client σ) (operation : Operation α) (state : σ) : List LogEvent :=
  (transcript client.silenced operation state).events

def errorsOf (events : List LogEvent) : List LogEvent :=
  events.filter fun event => event.level = .error

/-- One error is logged when an operation fails, and none when it ends well. The failure and what is
logged of it say the same behind how each of them begins. -/
structure LogsFailure (inLog inFailure : String) (result : Except Failure α)
    (own : List LogEvent) : Prop where
  failed : ∀ failure, result = .error failure → ∃ event reason, errorsOf own = [event] ∧
    event.message = inLog ++ reason ∧ failure.message = inFailure ++ reason
  succeeded : ∀ value, result = .ok value → errorsOf own = []

/-- A text of which only the first characters may be shown, with dots for all others. -/
structure ShownTo (limit : Nat) (text shown : String) : Prop where
  whole : text.toList.length ≤ limit → shown = text
  cut : limit < text.toList.length → shown.toList = text.toList.take limit ++ "...".toList

theorem shown_to_logged_body (body : String) : ShownTo 4096 body (loggedBody body) where
  whole short := if_pos short
  cut long := by
    have cut : ¬body.toList.length ≤ loggedBodyLimit := Nat.not_le.mpr long
    rw [loggedBody, Text.abbreviate, if_neg cut, String.toList_ofList]
    rfl

/-- A search logs its start and its end, around what the client logs, and gives the counts of what
was answered at its end. -/
structure LogsSearch (action : Action) (turn : Turn σ) (run : Transcript σ (Except Failure α))
    (own : List LogEvent) (counts : α → String → String → Prop) : Prop where
  around : run.events = own.take 1 ++ turn.events ++ own.drop 1
  failure :
    LogsFailure "search failed! " ("search failed! [" ++ action.uri ++ "] ") run.result own
  success : ∀ value, run.result = .ok value → ∃ body shown took total,
    action.body = some body ∧ ShownTo 4096 body shown ∧ counts value took total ∧
    own =
      [⟨.info, "search [" ++ action.uri ++ "]: " ++ shown, [("uri", .text action.uri)]⟩,
        ⟨.info, "search result",
          [("uri", .text action.uri), ("took", .text took), ("total", .text total)]⟩]

theorem logs_search_of_concluded (action : Action) {body : String} (sent : action.body = some body)
    (turn : Turn σ) (verdict : Except SearchFault α) (took total : α → String)
    {counts : α → String → String → Prop}
    (counted : ∀ value, verdict = .ok value → counts value (took value) (total value)) :
    let finished := fun value => LogEvent.searchFinished action (took value) (total value)
    LogsSearch action turn (concluded action turn verdict finished)
      (concluded action { turn with events := [] } verdict finished).events counts := by
  intro finished
  refine ⟨rfl, ⟨?_, ?_⟩, ?_⟩
  · intro failure failed
    cases verdict with
    | ok value => contradiction
    | error fault =>
        injection failed with same
        exact ⟨.searchFailed action fault, fault.message, rfl, rfl, same ▸ rfl⟩
  · intro value ended
    cases verdict with
    | error fault => contradiction
    | ok given => rfl
  · intro value ended
    cases verdict with
    | error fault => contradiction
    | ok given =>
        injection ended with same
        subst same
        refine ⟨body, _, took given, total given, sent, shown_to_logged_body body,
          counted given rfl, ?_⟩
        simp [concluded, finished, LogEvent.searchStarted, LogEvent.searchFinished,
          LogEvent.uriField, sent]

/-- What the engine said to an action is logged behind what the client logs. -/
structure LogsAcceptance (action : Action) (turn : Turn σ)
    (run : Transcript σ (Except Failure Bool)) (own : List LogEvent) : Prop where
  behind : run.events = turn.events ++ own
  failure : LogsFailure (action.name ++ " failed! ") (action.name ++ " failed! ") run.result own
  accepted : run.result = .ok true → own =
    [⟨.info, "engine accepted", [("operation", .text action.name), ("uri", .text action.uri)]⟩]
  rejected : run.result = .ok false → ∃ answer,
    turn.outcome = .ok answer ∧ answer.succeeded = false ∧ own =
      [⟨.warning, "engine rejected",
        [("operation", .text action.name), ("uri", .text action.uri),
          ("status", .count answer.status.toNat),
          ("error", .text (answer.errorMessage.getD ""))]⟩]

theorem logs_acceptance_of_acknowledge (client : Client σ) (action : Action) (state : σ) :
    LogsAcceptance action (client.execute state action)
      (transcript client (acknowledge action) state)
      (ownEvents client (acknowledge action) state) := by
  simp only [ownEvents, transcript_acknowledge, Client.silenced, List.nil_append]
  cases outcome : (client.execute state action).outcome with
  | error failure =>
      refine ⟨rfl, ⟨?_, by simp⟩, by simp, by simp⟩
      intro reported failed
      injection failed with same
      exact ⟨.clientFailed action failure, failure.message, rfl, rfl, same ▸ rfl⟩
  | ok answer =>
      dsimp only
      cases verdict : answer.succeeded with
      | true => exact ⟨rfl, ⟨by simp, fun _ _ => rfl⟩, fun _ => rfl, by simp⟩
      | false =>
          exact ⟨rfl, ⟨by simp, fun _ _ => rfl⟩, by simp, fun _ => ⟨answer, outcome, verdict, rfl⟩⟩

/-! ## The log of an exchange -/

def ShowsCounts (json : Json) (took total : String) : Prop :=
  ∃ counts, LoggedCounts.Of json counts ∧
    took = shownOption counts.took ∧ total = shownOption counts.total

def ShowsAllCounts (size : Nat) (answers : List Json) (took total : String) : Prop :=
  ∃ counts, List.Forall₂ LoggedCounts.Of answers counts ∧ counts.length = size ∧
    took = shownOptions (counts.map LoggedCounts.took) ∧
    total = shownOptions (counts.map LoggedCounts.total)

theorem shows_counts (json : Json) :
    ShowsCounts json (shownOption (Hits.took? json)) (shownOption (Hits.total? json)) :=
  ⟨.read json, LoggedCounts.of_read json, rfl, rfl⟩

theorem shows_all_counts (answers : List Json) :
    ShowsAllCounts answers.length answers (shownOptions (answers.map Hits.took?))
      (shownOptions (answers.map Hits.total?)) := by
  refine ⟨answers.map LoggedCounts.read, ?_, List.length_map _, ?_, ?_⟩
  · rw [List.forall₂_map_right_iff, List.forall₂_same]
    exact fun json _ => LoggedCounts.of_read json
  · rw [List.map_map]
    rfl
  · rw [List.map_map]
    rfl

/-- A search, a batch and an acknowledged action log truly what came of them. An error is logged
exactly when they fail, once, and it says what the failure says. A search that ends well logs where
it goes to and what it sends, of which it shows 4096 characters, and then the counts of each answer;
an action, that it was accepted or why it was rejected. No two rows of counts look alike there. -/
theorem log_tells_what_happened (client : Client σ) (state : σ) (wanted : Search)
    (searches : List Search) (action : Action) :
    LogsSearch (.search wanted) (client.execute state (.search wanted))
      (transcript client (search wanted) state) (ownEvents client (search wanted) state)
      ShowsCounts ∧
    LogsSearch (.multiSearch searches) (client.execute state (.multiSearch searches))
      (transcript client (searchAll searches) state) (ownEvents client (searchAll searches) state)
      (ShowsAllCounts searches.length) ∧
    LogsAcceptance action (client.execute state action)
      (transcript client (acknowledge action) state)
      (ownEvents client (acknowledge action) state) ∧
    Function.Injective shownOption ∧ Function.Injective shownOptions := by
  refine ⟨?_, ?_, logs_acceptance_of_acknowledge client action state, shown_option_injective,
    shown_options_injective⟩
  · simp only [ownEvents, transcript_search]
    exact logs_search_of_concluded _ rfl _ _ _ _ fun json _ => shows_counts json
  · simp only [ownEvents, transcript_search_all]
    refine logs_search_of_concluded _ rfl _ _ _ _ fun answers answered => ?_
    have counted : answers.length = searches.length := by
      cases verdict : judge (client.execute state (.multiSearch searches)).outcome with
      | error fault => simp [verdict, Except.bind] at answered
      | ok answer =>
          rw [verdict] at answered
          obtain ⟨⟨_, -, -, counted⟩, -⟩ :=
            (answers_of_eq_ok searches answer.json answers).mp answered
          exact counted
    exact counted ▸ shows_all_counts answers

end Operation

end SearchKit
