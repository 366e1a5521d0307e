import Mathlib.Data.List.Induction
import SearchKit.Proofs.Json.RoundTrip
import SearchKit.Proofs.Query.Compilation

/-!
What a row of settings makes of a base. Only the last setting of each part counts, and of the sort
keys all of them in their order. The base keeps its names at their places, and the parts it does
not have come behind them in a fixed order.
-/

namespace SearchKit

set_option autoImplicit false

namespace Overlay

/-! ## Settings that count -/

def Step.start? : Step → Option UInt64
  | .start value => some value
  | _ => .none

def Step.size? : Step → Option UInt32
  | .size value => some value
  | _ => .none

def Step.query? : Step → Option Query
  | .query value => some value
  | _ => .none

def Step.order? : Step → Option Order
  | .sort order => some order
  | _ => .none

def Step.marking? : Step → Option Marking
  | .marking value => some value
  | _ => .none

def last {α : Type} (part? : Step → Option α) (steps : List Step) : Option α :=
  (steps.filterMap part?).getLast?

def sortOrders (steps : List Step) : List Order := steps.filterMap Step.order?

/-- Two rows of settings with the same last ones and the same sort keys. -/
structure SameSettings (steps others : List Step) : Prop where
  start : last Step.start? steps = last Step.start? others
  size : last Step.size? steps = last Step.size? others
  query : last Step.query? steps = last Step.query? others
  sort : sortOrders steps = sortOrders others
  marking : last Step.marking? steps = last Step.marking? others

/-- What a row of settings has for a name of a body, if it sets that part. -/
def setting? (steps : List Step) : String → Option Json
  | "from" => (last Step.start? steps).map .ofUInt64
  | "size" => (last Step.size? steps).map .ofUInt32
  | "query" => (last Step.query? steps).map Query.toJson
  | "sort" =>
      if sortOrders steps = [] then .none
      else some (.array ((sortOrders steps).map Order.sortKey))
  | "highlight" => (last Step.marking? steps).map Marking.toJson
  | _ => .none

/-- Settings laid on a base. The names of the base come first and in their order, then the parts
that are set and that it has not. Each name has its setting, or what the base has for it. -/
structure Lays (setting : String → Option Json) (base laid : Entries Json) : Prop where
  names : laid.names =
    base.names ++ partNames.filter fun name => (setting name).isSome ∧ name ∉ base.names
  values : ∀ name, Entries.find? name laid = (setting name).or (Entries.find? name base)

theorem last_append {α : Type} (part? : Step → Option α) (steps later : List Step) :
    last part? (steps ++ later) = (last part? later).or (last part? steps) := by
  rw [last, List.filterMap_append, List.getLast?_append]
  rfl

theorem sort_orders_append (steps later : List Step) :
    sortOrders (steps ++ later) = sortOrders steps ++ sortOrders later := List.filterMap_append

theorem of_steps_eq (steps : List Step) :
    ofSteps steps =
      { start := last Step.start? steps
        size := last Step.size? steps
        query := last Step.query? steps
        sort := sortOrders steps
        marking := last Step.marking? steps } := by
  induction steps using List.reverseRecOn with
  | nil => rfl
  | append_singleton steps step ih =>
      have unfolded : ofSteps (steps ++ [step]) = (ofSteps steps).set step := by
        rw [ofSteps, List.foldl_append]
        rfl
      rw [unfolded, ih]
      simp only [last_append, sort_orders_append]
      cases step <;> simp [set, last, sortOrders, Step.start?, Step.size?, Step.query?,
        Step.order?, Step.marking?]

theorem find_of_steps (steps : List Step) (name : String) :
    Entries.find? name (ofSteps steps).entries = setting? steps name := by
  rw [find_entries, of_steps_eq]
  fun_cases setting? steps name with
  | case1 | case2 | case3 | case6 => simp [Entries.find?]
  | case4 none | case5 set => simp [Entries.find?, *]
  | case7 _ notFrom notSize notQuery notSort notHighlight =>
      simp [Entries.find?, Ne.symm notFrom, Ne.symm notSize, Ne.symm notQuery, Ne.symm notSort,
        Ne.symm notHighlight]

theorem setting_of_names (steps : List Step) :
    (ofSteps steps).entries.names = partNames.filter fun name => (setting? steps name).isSome := by
  simp only [← find_of_steps]
  exact Entries.names_of_present_eq_filter (by change partNames.Nodup; decide)

theorem lays_of_steps (steps : List Step) (base : Entries Json) :
    Lays (setting? steps) base ((ofSteps steps).onto base) where
  names := by
    rw [onto_eq_put_all, Entries.names_put_all (ofSteps steps).entries_distinct, setting_of_names,
      List.filter_filter]
    congr 1
    apply List.filter_congr
    intro name _
    rw [Bool.eq_iff_iff]
    simp [and_comm]
  values name := by rw [find_onto, find_of_steps]

theorem setting_sort_eq_none_iff (steps : List Step) :
    setting? steps "sort" = .none ↔ ∀ order, .sort order ∉ steps := by
  have none : setting? steps "sort" = .none ↔ sortOrders steps = [] := by
    simp [setting?]
  rw [none, sortOrders, List.filterMap_eq_nil_iff]
  constructor
  · intro plain order member
    exact absurd (plain _ member) (by simp [Step.order?])
  · intro absent step member
    cases step with
    | sort order => exact absurd member (absent order)
    | start _ | size _ | query _ | marking _ => rfl

theorem fold_sorts (orders : List Order) (overlay : Overlay) :
    (orders.map Step.sort).foldl set overlay = { overlay with sort := overlay.sort ++ orders } := by
  induction orders generalizing overlay with
  | nil => simp
  | cons order rest ih =>
      rw [List.map_cons, List.foldl_cons, ih]
      simp [set]

end Overlay

namespace Request

open Overlay (Step SameSettings Lays last setting? ofSteps)

def steps (request : Request) (query : Option Query) (marking : Option Marking) : List Step :=
  query.toList.map .query ++ request.sortKeys.map .sort ++
    (request.activePage.toList.flatMap fun page =>
      [.start (UInt64.ofNatLT page.offset page.offset_lt), .size page.limit]) ++
    marking.toList.map .marking

theorem overlay_eq_of_steps (request : Request) (query : Option Query) (marking : Option Marking) :
    request.overlay query marking = ofSteps (request.steps query marking) := by
  rw [ofSteps, steps, overlay, List.foldl_append, List.foldl_append, List.foldl_append]
  rw [Overlay.fold_sorts]
  cases query <;> cases request.activePage <;> cases marking <;> rfl

def rawParts : List String := ["from", "size", "sort", "highlight"]

theorem setting_of_raw (request : Request) (marking : Option Marking) {name : String}
    (other : name ∉ rawParts) : setting? (request.steps none marking) name = none := by
  have noQuery : last Step.query? (request.steps none marking) = none := by
    have same := congrArg Overlay.query (request.overlay_eq_of_steps none marking)
    rw [Overlay.of_steps_eq] at same
    exact same.symm
  fun_cases setting? (request.steps none marking) name with
  | case3 => rw [noQuery, Option.map_none]
  | case7 => rfl
  | case1 | case2 | case4 | case5 | case6 => simp [rawParts] at other

/-- A body is known from the base, the last setting of each part and the sort keys, however the
settings are ordered. Names of the base keep their places, what is set replaces what they have, and
the parts that the base has not come behind it. The sort keys of a base stay exactly when no other
is set. A compiled raw query is such a body without a query set: only its page, its sort keys and
its highlighting can differ from what was given. -/
theorem bodies_are_known_from_last_settings :
    (∀ steps others : List Step, SameSettings steps others →
      ∀ base, (ofSteps steps).body base = (ofSteps others).body base) ∧
    (∀ (steps : List Step) (base : Entries Json),
      ∃ laid, (ofSteps steps).body base = .object laid ∧ Lays (setting? steps) base laid) ∧
    (∀ steps : List Step, (∀ order, .sort order ∉ steps) ↔
      ∀ base, ((ofSteps steps).body base).member? "sort" = Entries.find? "sort" base) ∧
    ∀ (request : Request) (raw : String) (search : Search),
      request.rawQuery = some raw → request.compile = .ok search →
      ∃ base marking laid, Json.ofText raw = .ok (.object base) ∧ request.marking = .ok marking ∧
        search.body = .object laid ∧ Lays (setting? (request.steps none marking)) base laid ∧
        ∀ name, name ∉ rawParts → Entries.find? name laid = Entries.find? name base := by
  refine ⟨?_, fun steps base => ⟨_, rfl, Overlay.lays_of_steps steps base⟩, ?_, ?_⟩
  · intro steps others same base
    rw [Overlay.of_steps_eq, Overlay.of_steps_eq others, same.start, same.size, same.query,
      same.sort, same.marking]
  · intro steps
    have found (base : Entries Json) : ((ofSteps steps).body base).member? "sort" =
        (setting? steps "sort").or (Entries.find? "sort" base) :=
      (Overlay.lays_of_steps steps base).values "sort"
    simp only [← Overlay.setting_sort_eq_none_iff, found]
    constructor
    · intro unset base
      rw [unset, Option.none_or]
    · intro stays
      simpa [Entries.find?] using stays []
  · intro request raw search given compiled
    obtain ⟨base, query, marking, based, marked, rfl⟩ := (compile_eq_ok request search).mp compiled
    obtain ⟨read, rfl⟩ := (base_of_raw given).mp based
    rw [overlay_eq_of_steps]
    have lays := Overlay.lays_of_steps (request.steps none marking) base
    refine ⟨base, marking, _, read, marked, rfl, lays, fun name other => ?_⟩
    rw [lays.values, setting_of_raw request marking other, Option.none_or]

def resizing : List Step :=
  [.size 5, .sort ⟨"year", .descending⟩, .start 40, .sort ⟨"title", .ascending⟩, .size 20]

def sizing : List Step :=
  [.sort ⟨"year", .descending⟩, .size 20, .sort ⟨"title", .ascending⟩, .start 40]

def sizedBase : Entries Json := [("size", .ofUInt64 5), ("query", .emptyObject)]

def sizedRaw : Request :=
  { Request.empty with
    rawQuery := some (Json.object sizedBase).text
    page := some (Page.ofNumbers (some 3) (some 10)) }

theorem sized_raw_gets_its_page_in_place :
    (ofSteps resizing).body sizedBase = (ofSteps sizing).body sizedBase ∧
      ∃ search laid, sizedRaw.compile = .ok search ∧ search.body = .object laid ∧
        Entries.names laid = ["size", "query", "from"] ∧
          Entries.find? "query" laid = some .emptyObject := by
  obtain ⟨determined, -, -, raw⟩ := bodies_are_known_from_last_settings
  have plain : Json.Plain Json.nestingLimit (.object sizedBase) := by
    have shallow : Json.Plain 2 (.object sizedBase) := by
      refine .object (by decide) ?_
      simp only [sizedBase, List.forall_mem_cons]
      exact ⟨.of_uint64 1 5, .object (by decide) (by simp), by simp⟩
    exact shallow.mono (by decide)
  have read := Json.of_text_of_text plain
  obtain ⟨search, compiled⟩ : ∃ search, sizedRaw.compile = .ok search :=
    ⟨_, (compile_eq_ok sizedRaw _).mpr
      ⟨sizedBase, none, none, (base_of_raw rfl).mpr ⟨read, rfl⟩, rfl, rfl⟩⟩
  obtain ⟨base, marking, laid, readBase, marked, body, lays, kept⟩ :=
    raw sizedRaw _ search rfl compiled
  rw [read] at readBase
  injection readBase with same
  injection same with same
  injection marked with unmarked
  subst same unmarked
  refine ⟨determined resizing sizing ⟨rfl, rfl, rfl, rfl, rfl⟩ sizedBase, search, laid, compiled,
    body, lays.names, ?_⟩
  rw [kept "query" (by decide)]
  rfl

end Request

end SearchKit
