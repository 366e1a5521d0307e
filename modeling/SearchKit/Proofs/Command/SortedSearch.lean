import SearchKit.Proofs.Command.Endings
import SearchKit.Proofs.Request.SortKeys

/-!
Sort keys on their way from the command line into the body of a search. Each is an option of its
own; all of them are read before anything is sent, and the body has one entry for each, in the order
in which they were given.
-/

namespace SearchKit

set_option autoImplicit false

variable {σ : Type}

/-! ## Options of a raw search -/

namespace Arguments

def assigned (name value : String) : String := "--" ++ name ++ "=" ++ value

section Assigned

variable {state : State} {name : String} {spec : OptionSpec}

theorem read_named_assigned (noEquals : '=' ∉ name.toList)
    (known : state.menu.options.find? (fun spec => spec.name == name) = some spec)
    (taking : spec.kind ≠ .flag) (value : String) :
    state.readNamed (name.toList ++ '=' :: value.toList) =
      (state.record spec value).map fun next => (next, none) := by
  have plain : ∀ character ∈ name.toList, decide (character ≠ '=') = true := by
    intro character member
    rw [decide_eq_true_eq]
    rintro rfl
    exact noEquals member
  have cut : (name.toList ++ '=' :: value.toList).span (· ≠ '=') =
      (name.toList, '=' :: value.toList) := by
    rw [List.span_eq_takeWhile_dropWhile, List.takeWhile_append_of_pos plain,
      List.dropWhile_append_of_pos plain]
    simp
  simp only [State.readNamed, cut, String.ofList_toList, known, taking, if_false]

theorem step_assigned (options : state.literal = false) (command : state.menu.isGroup = false)
    (noEquals : '=' ∉ name.toList)
    (known : state.menu.options.find? (fun spec => spec.name == name) = some spec)
    (taking : spec.kind ≠ .flag) (value : String) :
    state.step (assigned name value) = (state.record spec value).map fun next => (next, none) := by
  have chars : (assigned name value).toList =
      '-' :: '-' :: (name.toList ++ '=' :: value.toList) := by
    simp [assigned]
  have noMenu : state.menu.choose? (assigned name value) = none := by
    cases menu : state.menu with
    | group _ => simp [menu, Menu.isGroup] at command
    | command _ _ _ => rfl
  rw [← read_named_assigned noEquals known taking value, State.step]
  simp only [options, Bool.false_eq_true, if_false, noMenu, chars]
  cases text : name.toList ++ '=' :: value.toList with
  | nil => simp at text
  | cons first rest => rfl

theorem read_words_assigned (options : state.literal = false)
    (command : state.menu.isGroup = false) (noEquals : '=' ∉ name.toList)
    (known : state.menu.options.find? (fun spec => spec.name == name) = some spec)
    (taking : spec.kind ≠ .flag) {value : String} {next : State}
    (recorded : state.record spec value = .ok next) (rest : List String) :
    readWords state (assigned name value :: rest) = readWords next rest := by
  rw [readWords, step_assigned options command noEquals known taking, recorded]
  simp [command, Except.map]

end Assigned

def State.sorting (query : String) (keys : List String) : State :=
  ⟨rawMenu, false, [], ("query", [query]) :: (if keys = [] then [] else [("order", keys)]), [],
    false⟩

def sortingWords (query : String) (keys : List String) : List String :=
  "raw" :: assigned "query" query :: keys.map (assigned "order")

theorem finish_sorting (query : String) (keys : List String) :
    (State.sorting query keys).finish =
      .ok ⟨.withEngine (.raw ⟨query, [], [], none, none, keys⟩), none, false, false⟩ := by
  cases keys <;> rfl

theorem record_order (query : String) (keys : List String) (key : String) :
    (State.sorting query keys).record (repeatedOption "order") key =
      .ok (State.sorting query (keys ++ [key])) := by
  cases keys <;> rfl

theorem read_further_keys (query : String) (given keys : List String) :
    readWords (State.sorting query given) (keys.map (assigned "order")) =
      .ok ⟨.withEngine (.raw ⟨query, [], [], none, none, given ++ keys⟩), none, false, false⟩ := by
  induction keys generalizing given with
  | nil => rw [List.map_nil, readWords, finish_sorting, List.append_nil]
  | cons key rest ih =>
      rw [List.map_cons, read_words_assigned rfl rfl (by decide +kernel) rfl (by decide)
        (record_order query given key), ih, List.append_assoc, List.singleton_append]

theorem read_sorting_words (query : String) (keys : List String) :
    read (sortingWords query keys) =
      .ok ⟨.withEngine (.raw ⟨query, [], [], none, none, keys⟩), none, false, false⟩ := by
  have entered (rest : List String) :
      read ("raw" :: rest) = readWords (State.initial.enter rawMenu) rest := rfl
  have recorded : (State.initial.enter rawMenu).record (textOption "query") query =
      .ok (State.sorting query []) := rfl
  rw [sortingWords, entered, read_words_assigned rfl rfl (by decide +kernel) rfl (by decide)
    recorded, read_further_keys, List.nil_append]

end Arguments

/-! ## The body that is sent -/

namespace RawSearch

def request (raw : RawSearch) (query : String) (order : List Order) : Request :=
  { Request.ofRaw query raw.indices raw.types with page := raw.page, order }

theorem compile_request (raw : RawSearch) {query : String} {base : Entries Json}
    (isObject : Json.ofText query = .ok (.object base)) (order : List Order) :
    ∃ search, (raw.request query order).compile = .ok search ∧
      search.body = ((raw.request query order).overlay none none).body base :=
  ⟨_, (Request.compile_eq_ok _ _).mpr
    ⟨base, none, none, (Request.base_of_raw rfl).mpr ⟨isObject, rfl⟩, rfl, rfl⟩, rfl⟩

theorem exchanges_of_perform (client : Client σ) (state : σ) (around : Surroundings)
    (raw : RawSearch) {query : String} (given : around.inlineText raw.query = .ok query)
    {order : List Order} (accepted : raw.order.mapM Order.ofText = .ok order) {search : Search}
    (compiled : (raw.request query order).compile = .ok search) :
    (Procedure.transcript client (raw.perform around) state).exchanges =
      [⟨.search search, (client.execute state (.search search)).outcome⟩] := by
  have prepared : (EngineCommand.raw raw).prepare around = .ok (raw.operation query) := by
    rw [EngineCommand.prepare, given]
    rfl
  have searching : Operation.searchRaw query raw.indices raw.types raw.page order =
      Operation.searchRequest (raw.request query order) := rfl
  rw [(raw.prepares_perform around).transcript_eq, prepared]
  simp only [Procedure.preparedTranscript, RawSearch.operation, Operation.transcript_checked_bind,
    accepted, Operation.transcript_map, searching, Operation.transcript_search_request, compiled,
    Operation.transcript_search, Operation.concluded]

theorem exchanges_of_refused (client : Client σ) (state : σ) (around : Surroundings)
    {raw : RawSearch} {refusal : Refusal} (refused : raw.order.mapM Order.ofText = .error refusal) :
    (Procedure.transcript client (raw.perform around) state).exchanges = [] := by
  rw [(raw.prepares_perform around).transcript_eq, EngineCommand.prepare]
  cases around.inlineText raw.query with
  | error failure => rfl
  | ok query =>
      simp only [Checked.ok_bind, Pure.pure, Except.pure, Procedure.preparedTranscript,
        RawSearch.operation, Operation.transcript_checked_bind, refused]

/-- A text is a sort key exactly when it is a name without a colon, which sorts in ascending order,
or a name with a colon and a direction behind it in any case of its letters; so a name comes back
from each of its texts with a direction, whatever colons it has. The values of the options of a raw
search are its sort keys. When all of them are accepted the body of the one search that is sent has
an entry for each, with its name and its direction, in their order; otherwise nothing is sent. -/
theorem sort_keys_are_read_and_sent (client : Client σ) (state : σ) (around : Surroundings)
    (raw : RawSearch) :
    (∀ text order, Order.ofText text = .ok order ↔ Order.Written text order) ∧
    (∀ name direction, name ≠ "" →
      Order.ofText (name ++ ":" ++ direction.word) = .ok ⟨name, direction⟩) ∧
    (∀ query keys, Arguments.read (Arguments.sortingWords query keys) =
      .ok ⟨.withEngine (.raw ⟨query, [], [], none, none, keys⟩), none, false, false⟩) ∧
    let exchanges := (Procedure.transcript client (raw.perform around) state).exchanges
    (∀ orders query base, List.Forall₂ Order.Written raw.order orders →
      around.inlineText raw.query = .ok query → Json.ofText query = .ok (.object base) →
      ∃ search outcome, exchanges = [⟨.search search, outcome⟩] ∧
        search.body.member? "sort" =
          if orders = [] then Entries.find? "sort" base
          else some (.array (orders.map fun order =>
            .object [(order.name, .object [("order", .string order.direction.word)])]))) ∧
    ((∀ orders, ¬List.Forall₂ Order.Written raw.order orders) → exchanges = []) := by
  have accepts (orders : List Order) :
      raw.order.mapM Order.ofText = .ok orders ↔ List.Forall₂ Order.Written raw.order orders := by
    simp only [Checked.map_m_eq_ok, Order.of_text_eq_ok_iff]
  refine ⟨Order.of_text_eq_ok_iff, ?_, Arguments.read_sorting_words, ?_, ?_⟩
  · intro name direction named
    exact (Order.of_text_eq_ok_iff _ _).mpr (Order.written_with_word named direction)
  · intro orders query base written given isObject
    obtain ⟨search, compiled, body⟩ := raw.compile_request isObject orders
    have sent := exchanges_of_perform client state around raw given ((accepts orders).mpr written)
      compiled
    have kept : (raw.request query orders).sortKeys = orders :=
      List.filter_eq_self.mpr fun order member => by
        simpa using Order.named_of_all_written written order member
    refine ⟨search, _, sent, ?_⟩
    rw [body]
    simp only [Overlay.body, Json.member?, Overlay.find_onto_sort, Request.overlay, kept]
    split <;> rfl
  · intro unwritten
    cases read : raw.order.mapM Order.ofText with
    | ok orders => exact absurd ((accepts orders).mp read) (unwritten orders)
    | error refusal => exact exchanges_of_refused client state around read

def twoSortKeys : RawSearch := ⟨"\x7b\x7d", ["books"], [], none, none, ["a:b:Desc", "title"]⟩

theorem two_sort_keys_are_sent :
    let sent := (Procedure.transcript Scripted.client
      (twoSortKeys.perform (Surroundings.withInput "")) (Scripted.ofOutcomes [])).exchanges
    Order.ofText "a:b:Desc" = .ok ⟨"a:b", .descending⟩ ∧
      ∃ search outcome, sent = [⟨.search search, outcome⟩] ∧
        search.body.member? "sort" = some (.array
          [.object [("a:b", .object [("order", .string "desc")])],
            .object [("title", .object [("order", .string "asc")])]]) := by
  intro sent
  obtain ⟨grammar, -, -, reaches, -⟩ := sort_keys_are_read_and_sent Scripted.client
    (Scripted.ofOutcomes []) (Surroundings.withInput "") twoSortKeys
  have spelled : Direction.descending.Spells "Desc" := by
    simp [Direction.Spells, Direction.word]
  have withDirection : Order.Written ("a:b" ++ ":" ++ "Desc") ⟨"a:b", .descending⟩ :=
    .directed (by decide) (by decide +kernel) spelled
  rw [(by decide +kernel : "a:b" ++ ":" ++ "Desc" = "a:b:Desc")] at withDirection
  have alone : Order.Written "title" ⟨"title", .ascending⟩ := .plain (by decide) (by decide +kernel)
  have isObject : Json.ofText "\x7b\x7d" = .ok (.object []) := by decide +kernel
  exact ⟨(grammar _ _).mpr withDirection,
    reaches _ _ _ (.cons withDirection (.cons alone .nil)) rfl isObject⟩

end RawSearch

end SearchKit
