import SearchKit.Proofs.Json.Decoding
import SearchKit.Query.Compile

/-!
Requests as JSON. What a request is written as is read as the same request, but for values that are
null, which are read as no values. Reading gives no null, so that a request that was read keeps its
meaning when it is written and read once more.
-/

namespace SearchKit

set_option autoImplicit false

open Json.Decoder

/-! ## Clauses -/

theorem MatchMode.decode_word (mode : MatchMode) : decode (.string mode.word) = .ok mode :=
  ofWord_word mode

namespace Clause

/-- The clause as it is read again: a value that is null counts as none. -/
def withoutNull (clause : Clause) : Clause :=
  { clause with value := clause.value.filter fun value => value ≠ .null }

theorem without_null_eq_iff (clause : Clause) :
    clause.withoutNull = clause ↔ clause.value ≠ some .null := by
  obtain ⟨field, value, mode⟩ := clause
  cases value <;> simp [withoutNull, Option.filter]

theorem decode_to_json (clause : Clause) : decode clause.toJson = .ok clause.withoutNull := by
  obtain ⟨field, value, mode⟩ := clause
  cases value with
  | none =>
      simp [toJson, decode, readMember, Entries.ofPresent, string, MatchMode.decode_word,
        Checked.ok_bind, withoutNull]
  | some value =>
      simp [toJson, decode, readMember, Entries.ofPresent, string, MatchMode.decode_word,
        Checked.ok_bind, optional_any, withoutNull]

theorem value_of_read_member {clause next : Clause} {member : String × Json}
    (read : clause.readMember member = .ok next) (given : clause.value ≠ some .null) :
    next.value ≠ some .null := by
  unfold readMember at read
  split at read
  · obtain ⟨field, -, rfl⟩ := (Checked.bind_pure_eq_ok _ _ _).mp read
    exact given
  · obtain ⟨value, found, rfl⟩ := (Checked.bind_pure_eq_ok _ _ _).mp read
    exact ne_null_of_optional_any found
  · obtain ⟨mode, -, rfl⟩ := (Checked.bind_pure_eq_ok _ _ _).mp read
    exact given
  · injection read with same
    exact same ▸ given

theorem value_of_decode {json : Json} {clause : Clause} (read : decode json = .ok clause) :
    clause.value ≠ some .null := by
  cases json with
  | object members =>
      exact Checked.fold_m_keeps (fun clause => clause.value ≠ some .null) value_of_read_member
        read (by simp)
  | array items =>
      obtain ⟨field, -, valued⟩ := (Checked.bind_eq_ok _ _ _).mp read
      obtain ⟨value, found, moded⟩ := (Checked.bind_eq_ok _ _ _).mp valued
      obtain ⟨mode, -, made⟩ := (Checked.bind_eq_ok _ _ _).mp moded
      split at made
      · rw [← (Checked.pure_eq_ok _ _).mp made]
        unfold element at found
        split at found
        · exact ne_null_of_optional_any found
        · injection found with same
          simp [← same]
      · contradiction
  | null | bool _ | number _ | string _ => contradiction

end Clause

/-! ## Groups of clauses -/

namespace Clauses

def NullFree (clauses : Clauses) : Prop :=
  ∀ entry ∈ clauses.all, entry.2.value ≠ some .null

theorem null_free_iff (clauses : Clauses) :
    clauses.NullFree ↔
      (∀ clause ∈ clauses.must, clause.value ≠ some .null) ∧
        (∀ clause ∈ clauses.should, clause.value ≠ some .null) ∧
          ∀ clause ∈ clauses.mustNot, clause.value ≠ some .null := by
  simp only [NullFree, all, List.forall_mem_append, List.forall_mem_map, and_assoc]

def withoutNulls (clauses : Clauses) : Clauses :=
  ⟨clauses.must.map Clause.withoutNull, clauses.should.map Clause.withoutNull,
    clauses.mustNot.map Clause.withoutNull⟩

theorem without_nulls_eq_iff (clauses : Clauses) :
    clauses.withoutNulls = clauses ↔ clauses.NullFree := by
  have unchanged (list : List Clause) :
      list.map Clause.withoutNull = list ↔ ∀ clause ∈ list, clause.value ≠ some .null :=
    calc list.map Clause.withoutNull = list
      _ ↔ list.map Clause.withoutNull = list.map id := by rw [List.map_id]
      _ ↔ ∀ clause ∈ list, clause.withoutNull = clause := List.map_inj_left
      _ ↔ ∀ clause ∈ list, clause.value ≠ some .null := by simp only [Clause.without_null_eq_iff]
  obtain ⟨must, should, mustNot⟩ := clauses
  simp only [null_free_iff, withoutNulls, mk.injEq, unchanged]

def groupMember (name : String) (group : List Clause) : Entries Json :=
  if group.isEmpty then [] else [(name, .array (group.map Clause.toJson))]

theorem members_eq (clauses : Clauses) :
    clauses.members =
      groupMember "must" clauses.must ++ groupMember "should" clauses.should ++
        groupMember "mustNot" clauses.mustNot := by
  obtain ⟨must, should, mustNot⟩ := clauses
  cases must <;> cases should <;> cases mustNot <;> rfl

theorem read_members (clauses : Clauses) :
    clauses.members.foldlM readMember .none = .ok clauses.withoutNulls := by
  have listed (group : List Clause) :
      Json.Decoder.list Clause.decode (.array (group.map Clause.toJson)) =
        .ok (group.map Clause.withoutNull) :=
    list_of_map fun clause _ => clause.decode_to_json
  have must : (groupMember "must" clauses.must).foldlM readMember .none =
      .ok ⟨clauses.must.map Clause.withoutNull, [], []⟩ := by
    apply read_filled (fun must => Clauses.mk must [] []) Clause.withoutNull rfl
    simp only [readMember, listed]
    rfl
  have should (must : List Clause) :
      (groupMember "should" clauses.should).foldlM readMember ⟨must, [], []⟩ =
        .ok ⟨must, clauses.should.map Clause.withoutNull, []⟩ := by
    apply read_filled (fun should => Clauses.mk must should []) Clause.withoutNull rfl
    simp only [readMember, listed]
    rfl
  have mustNot (must should : List Clause) :
      (groupMember "mustNot" clauses.mustNot).foldlM readMember ⟨must, should, []⟩ =
        .ok ⟨must, should, clauses.mustNot.map Clause.withoutNull⟩ := by
    apply read_filled (fun mustNot => Clauses.mk must should mustNot) Clause.withoutNull rfl
    simp only [readMember, listed]
    rfl
  rw [members_eq, List.foldlM_append, List.foldlM_append, must, Checked.ok_bind, should,
    Checked.ok_bind, mustNot]
  rfl

theorem names_of_members (clauses : Clauses) :
    ∀ member ∈ clauses.members, member.1 ∈ ["must", "should", "mustNot"] := by
  intro member inside
  simp only [members, List.mem_filterMap] at inside
  obtain ⟨group, listed, made⟩ := inside
  split at made
  · contradiction
  · injection made with same
    rw [← same]
    exact List.mem_map_of_mem (f := Prod.fst) listed

theorem null_free_of_read_member {clauses next : Clauses} {member : String × Json}
    (read : clauses.readMember member = .ok next) (given : clauses.NullFree) : next.NullFree := by
  rw [null_free_iff] at given ⊢
  unfold readMember at read
  split at read
  · obtain ⟨must, found, rfl⟩ := (Checked.bind_pure_eq_ok _ _ _).mp read
    exact ⟨all_of_list Clause.value_of_decode found, given.2⟩
  · obtain ⟨should, found, rfl⟩ := (Checked.bind_pure_eq_ok _ _ _).mp read
    exact ⟨given.1, all_of_list Clause.value_of_decode found, given.2.2⟩
  · obtain ⟨mustNot, found, rfl⟩ := (Checked.bind_pure_eq_ok _ _ _).mp read
    exact ⟨given.1, given.2.1, all_of_list Clause.value_of_decode found⟩
  · injection read with same
    exact same ▸ given

end Clauses

/-! ## Order, highlighting and pages -/

theorem Order.decode_to_json (order : Order) : decode order.toJson = .ok order := by
  obtain ⟨name, direction⟩ := order
  cases direction <;> rfl

theorem Highlight.decode_to_json (highlight : Highlight) :
    decode highlight.toJson = .ok highlight := by
  obtain ⟨enabled, preTag, postTag, field⟩ := highlight
  cases field <;> rfl

theorem PageCount.of_int_word (count : PageCount) : ofInt? count.word.toNat = some count := by
  obtain ⟨word, positive⟩ := count
  have bounded := word.toNat_lt
  have above : (0 : Int) < word.toNat := by omega
  have uncapped : min word.toNat 0xFFFFFFFF = word.toNat := by omega
  rw [ofInt?, dif_pos above]
  simp only [Int.toNat_natCast, uncapped, UInt32.ofNatLT_toNat]

namespace Page

theorem read_number (draft : Draft) (number : Option PageCount) :
    draft.read ("pageNum", (number.map fun number => Json.ofUInt32 number.word).getD .null) =
      .ok { draft with number := number.map fun number => (number.word.toNat : Int) } := by
  cases number with
  | none => rfl
  | some number =>
      have read := optional_of_decode (by simp [Json.ofUInt32]) (signed64_of_uint32 number.word)
      simp only [Draft.read, Option.map_some, Option.getD_some, read]
      rfl

theorem read_size (draft : Draft) (size : PageCount) :
    draft.read ("pageSize", Json.ofUInt32 size.word) =
      .ok { draft with size := some (size.word.toNat : Int) } := by
  have read := optional_of_decode (by simp [Json.ofUInt32]) (signed64_of_uint32 size.word)
  simp only [Draft.read, read]
  rfl

theorem read_total (draft : Draft) (total : UInt64) :
    draft.read ("totalNum", Json.ofUInt64 total) = .ok { draft with total := some total } := by
  have read := optional_of_decode (by simp [Json.ofUInt64]) (unsigned64_of_uint64 total)
  simp only [Draft.read, read]
  rfl

/-- The counts of a page are within bounds, so that reading them drops nothing and caps nothing. -/
theorem decode_to_json (page : Page) : decode page.toJson = .ok page := by
  obtain ⟨enabled, number, size, total⟩ := page
  let draft (total : Option UInt64) : Draft :=
    ⟨enabled, number.map fun number => (number.word.toNat : Int), some (size.word.toNat : Int),
      total⟩
  have counts : [("enable", Json.bool enabled),
      ("pageNum", (number.map fun number => Json.ofUInt32 number.word).getD .null),
      ("pageSize", Json.ofUInt32 size.word)].foldlM Draft.read .empty = .ok (draft none) := by
    simp only [List.foldlM_cons, List.foldlM_nil, read_number, read_size, Checked.ok_bind]
    rfl
  have counted : (Entries.ofPresent [("totalNum", total.map Json.ofUInt64)]).foldlM Draft.read
      (draft none) = .ok (draft total) :=
    read_present draft rfl total (read_total (draft none))
  have drafted : (draft total).toPage = ⟨enabled, number, size, total⟩ := by
    have numbered : (number.map fun number => (number.word.toNat : Int)).bind PageCount.ofInt? =
        number := by
      cases number with
      | none => rfl
      | some number => exact number.of_int_word
    simp only [draft, Draft.toPage, sizeOf, Option.bind_some, PageCount.of_int_word,
      Option.getD_some, numbered]
  simp only [toJson, decode, List.foldlM_append, counts, counted, Checked.ok_bind, drafted]
  rfl

end Page

/-! ## Requests -/

namespace Request

/-- No value to search for is null, neither that of the request nor that of a clause. -/
structure NullFree (request : Request) : Prop where
  value : request.value ≠ some .null
  clauses : request.clauses.NullFree

def withoutNulls (request : Request) : Request :=
  { request with
    value := request.value.filter fun value => value ≠ .null
    clauses := request.clauses.withoutNulls }

theorem without_nulls_eq_iff (request : Request) :
    request.withoutNulls = request ↔ request.NullFree := by
  have value : (request.value.filter fun value => value ≠ .null) = request.value ↔
      request.value ≠ some .null := by
    cases request.value <;> simp [Option.filter]
  have same : request.withoutNulls = request ↔
      (request.value.filter fun value => value ≠ .null) = request.value ∧
        request.clauses.withoutNulls = request.clauses := by
    obtain ⟨rawQuery, indices, types, value, clauses, order, page, highlight⟩ := request
    simp [withoutNulls]
  rw [same, value, Clauses.without_nulls_eq_iff]
  exact ⟨fun given => ⟨given.1, given.2⟩, fun free => ⟨free.value, free.clauses⟩⟩

section Members

variable {start : Request}

theorem read_query (absent : start.rawQuery = none) (rawQuery : Option String) :
    (Entries.ofPresent [("query", rawQuery.map Json.string)]).foldlM readMember start =
      .ok { start with rawQuery } :=
  read_present (fun rawQuery => { start with rawQuery }) (by rw [← absent]) rawQuery fun _ => rfl

theorem read_scope (indices types : List String) :
    [("indexName", Json.strings indices), ("indexType", Json.strings types)].foldlM readMember
      start = .ok { start with indices, types } := by
  simp only [List.foldlM_cons, List.foldlM_nil, readMember, list_of_strings, Checked.ok_bind]
  rfl

theorem read_value (absent : start.value = none) (value : Option Json) :
    (Entries.ofPresent [("value", value)]).foldlM readMember start =
      .ok { start with value := value.filter fun value => value ≠ .null } := by
  cases value with
  | none => exact congrArg (fun value => Except.ok { start with value }) absent
  | some value =>
      have single : Entries.ofPresent [("value", some value)] = [("value", value)] := rfl
      simp only [single, List.foldlM_cons, List.foldlM_nil, readMember, optional_any]
      rfl

theorem read_groups (clauses : Clauses) :
    clauses.members.foldlM readMember start = .ok start := by
  apply Checked.fold_m_skips
  rintro ⟨name, group⟩ inside
  have named := clauses.names_of_members _ inside
  simp only [List.mem_cons, List.not_mem_nil, or_false] at named
  rcases named with rfl | rfl | rfl <;> rfl

theorem read_order (absent : start.order = []) (order : List Order) :
    (if order.isEmpty then [] else [("order", Json.array (order.map Order.toJson))]).foldlM
      readMember start = .ok { start with order } := by
  have listed : Json.Decoder.list Order.decode (.array (order.map Order.toJson)) =
      .ok (order.map id) := list_of_map fun order _ => order.decode_to_json
  have filled : start.readMember ("order", .array (order.map Order.toJson)) =
      .ok { start with order := order.map id } := by
    simp only [readMember, listed]
    rfl
  have read := read_filled (fun order => { start with order }) id (by rw [← absent]) order filled
  rwa [List.map_id] at read

theorem read_page (absent : start.page = none) (page : Option Page) :
    (Entries.ofPresent [("page", page.map Page.toJson)]).foldlM readMember start =
      .ok { start with page } := by
  refine read_present (fun page => { start with page }) (by rw [← absent]) page fun page => ?_
  have read := optional_of_decode (by simp [Page.toJson]) page.decode_to_json
  simp only [readMember, read]
  rfl

theorem read_highlight (absent : start.highlight = none) (highlight : Option Highlight) :
    (Entries.ofPresent [("highlight", highlight.map Highlight.toJson)]).foldlM readMember start =
      .ok { start with highlight } := by
  refine read_present (fun highlight => { start with highlight }) (by rw [← absent]) highlight
    fun highlight => ?_
  have read := optional_of_decode (by simp [Highlight.toJson]) highlight.decode_to_json
  simp only [readMember, read]
  rfl

end Members

theorem read_clauses (request : Request) {members : Entries Json}
    (written : request.toJson = .object members) :
    members.foldlM Clauses.readMember .none = .ok request.clauses.withoutNulls := by
  obtain ⟨rawQuery, indices, types, value, clauses, order, page, highlight⟩ := request
  injection written with same
  have before (start : Clauses) :
      (Entries.ofPresent [("query", rawQuery.map Json.string)] ++
          [("indexName", Json.strings indices), ("indexType", Json.strings types)] ++
            Entries.ofPresent [("value", value)]).foldlM Clauses.readMember start = .ok start := by
    cases rawQuery <;> cases value <;> rfl
  have between (start : Clauses) :
      (if order.isEmpty then [] else [("order", Json.array (order.map Order.toJson))]).foldlM
        Clauses.readMember start = .ok start := by
    cases order <;> rfl
  have behind (start : Clauses) :
      (Entries.ofPresent [("page", page.map Page.toJson),
        ("highlight", highlight.map Highlight.toJson)]).foldlM Clauses.readMember start =
          .ok start := by
    cases page <;> cases highlight <;> rfl
  rw [← same, List.foldlM_append, List.foldlM_append, List.foldlM_append, before, Checked.ok_bind,
    Clauses.read_members, Checked.ok_bind, between, Checked.ok_bind, behind]

theorem decode_to_json (request : Request) :
    decode request.toJson = .ok request.withoutNulls := by
  have clauses := request.read_clauses rfl
  obtain ⟨rawQuery, indices, types, value, clauses, order, page, highlight⟩ := request
  have settings : Entries.ofPresent
      [("page", page.map Page.toJson), ("highlight", highlight.map Highlight.toJson)] =
        Entries.ofPresent [("page", page.map Page.toJson)] ++
          Entries.ofPresent [("highlight", highlight.map Highlight.toJson)] :=
    List.filterMap_append (l := [_])
  rw [toJson, decode, clauses]
  -- One piece of the members after another, in the order in which they are written.
  simp only [settings, List.foldlM_append]
  rw [read_query rfl, Checked.ok_bind, read_scope, Checked.ok_bind, read_value rfl,
    Checked.ok_bind, read_groups, Checked.ok_bind, read_order rfl, Checked.ok_bind, read_page rfl,
    Checked.ok_bind, read_highlight rfl, Checked.ok_bind]
  rfl

/-! ## Requests that were read -/

theorem value_of_read_member {request next : Request} {member : String × Json}
    (read : request.readMember member = .ok next) (given : request.value ≠ some .null) :
    next.value ≠ some .null := by
  unfold readMember at read
  split at read
  -- Only the member `value` changes the value; a name that is not known changes nothing at all.
  case h_4 =>
    obtain ⟨value, found, rfl⟩ := (Checked.bind_pure_eq_ok _ _ _).mp read
    exact ne_null_of_optional_any found
  case h_8 =>
    injection read with same
    exact same ▸ given
  all_goals
    obtain ⟨_, -, rfl⟩ := (Checked.bind_pure_eq_ok _ _ _).mp read
    exact given

theorem null_free_of_decode {json : Json} {request : Request} (read : decode json = .ok request) :
    request.NullFree := by
  cases json with
  | object members =>
      obtain ⟨bare, others, grouped⟩ := (Checked.bind_eq_ok _ _ _).mp read
      obtain ⟨clauses, groups, rfl⟩ := (Checked.bind_pure_eq_ok _ _ _).mp grouped
      exact
        { value := Checked.fold_m_keeps (fun request => request.value ≠ some .null)
            value_of_read_member others (by simp [empty])
          clauses := Checked.fold_m_keeps Clauses.NullFree Clauses.null_free_of_read_member groups
            (by simp [Clauses.NullFree, Clauses.all, Clauses.none]) }
  | null | bool _ | number _ | string _ | array _ => contradiction

/-- Exactly the requests without nulls are read back unchanged. They include every request that
was read, whose counts of pages are positive, and which therefore compiles as it did when it is
written and read once more. -/
theorem requests_are_read_back :
    (∀ request : Request, decode request.toJson = .ok request ↔ request.NullFree) ∧
      ∀ json request, decode json = .ok request →
        request.NullFree ∧
          (∀ page, request.page = some page → 1 ≤ page.size.toNat ∧
            ∀ number, page.number = some number → 1 ≤ number.toNat) ∧
          decode request.toJson = .ok request ∧
          (decode request.toJson).map compile = .ok request.compile := by
  have again (request : Request) : decode request.toJson = .ok request ↔ request.NullFree := by
    rw [decode_to_json, Except.ok.injEq, without_nulls_eq_iff]
  refine ⟨again, fun json request read => ?_⟩
  have free := null_free_of_decode read
  have same := (again request).mpr free
  have counts (page : Page) : 1 ≤ page.size.toNat ∧
      ∀ number, page.number = some number → 1 ≤ number.toNat :=
    ⟨page.size.toNat_pos, fun number _ => number.toNat_pos⟩
  exact ⟨free, fun page _ => counts page, same, by rw [same]; rfl⟩

def looseRequest : Json :=
  .object
    [("value", .null),
      ("mustNot", .array [.array [.string "year", .null, .string "regex"]]),
      ("must", .array [.object [("queryType", .single "prefix" .null), ("value", .bool true)]]),
      ("order", .array [.object [("sort", .string "DESC"), ("name", .string "year")]]),
      ("page", .array [.bool true, .number (.integer (-3) (by decide)),
        .number (.integer 0x100000000 (by decide))]),
      ("comment", .string "not read")]

def requestForNull : Request :=
  .ofClauses "books" ⟨[], [.everything, ⟨"title", some .null, .term⟩], []⟩

theorem loose_request_is_read_back :
    (∃ request, decode looseRequest = .ok request ∧
      request.page = some ⟨true, none, ⟨0xFFFFFFFF, by decide⟩, none⟩ ∧
      request.toJson ≠ looseRequest ∧ decode request.toJson = .ok request) ∧
      decode requestForNull.toJson ≠ .ok requestForNull := by
  obtain ⟨request, read, paged, changed⟩ : ∃ request, decode looseRequest = .ok request ∧
      request.page = some ⟨true, none, ⟨0xFFFFFFFF, by decide⟩, none⟩ ∧
      request.toJson ≠ looseRequest := ⟨_, rfl, by decide, by decide⟩
  obtain ⟨-, -, again, -⟩ := requests_are_read_back.2 looseRequest request read
  have sought : ¬ requestForNull.NullFree := fun free =>
    free.clauses (.should, ⟨"title", some .null, .term⟩) (by decide) rfl
  exact ⟨⟨request, read, paged, changed, again⟩,
    fun same => sought ((requests_are_read_back.1 requestForNull).mp same)⟩

end Request

end SearchKit
