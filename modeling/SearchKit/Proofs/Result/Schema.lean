import SearchKit.Proofs.Json.Entries
import SearchKit.Proofs.Operations.BatchSearch

/-!
The published schema of results. Whatever the engine answers, the envelope made of it conforms, and
when the answers list their hits, it holds one document for each of them.
-/

namespace SearchKit

set_option autoImplicit false

/-! ## Schemas -/

/-- Descriptions of JSON values. A record has the properties that are required of it and no others
than those that are named. -/
inductive Schema where
  | integer (least : Int)
  | object
  | list (items : Schema)
  | record (properties : List (String × Schema)) (required : List String)

namespace Schema

mutual

def accepts : Schema → Json → Bool
  | .integer least, .number (.integer value _) => decide (least ≤ value)
  | .object, .object _ => true
  | .list items, .array values => values.all items.accepts
  | .record properties required, .object members =>
      members.all (acceptsMember properties) && required.all (Entries.names members).contains
  | _, _ => false

def acceptsMember : List (String × Schema) → String × Json → Bool
  | [], _ => false
  | (name, schema) :: rest, member =>
      if name = member.1 then schema.accepts member.2 else acceptsMember rest member

end

theorem accepts_member {properties : List (String × Schema)} {name : String} {schema : Schema}
    {value : Json} (found : Entries.find? name properties = some schema)
    (accepted : schema.accepts value = true) : acceptsMember properties (name, value) = true := by
  induction properties with
  | nil => contradiction
  | cons property rest ih =>
      obtain ⟨other, own⟩ := property
      rw [Entries.find?] at found
      rw [acceptsMember]
      split at found
      · injection found with same
        rwa [if_pos ‹_›, same]
      · rw [if_neg ‹_›]
        exact ih found

theorem accepts_record {properties : List (String × Schema)} {required : List String}
    {members : Entries Json}
    (each : ∀ member ∈ members, acceptsMember properties member = true)
    (present : ∀ name ∈ required, name ∈ Entries.names members) :
    (record properties required).accepts (.object members) = true := by
  rw [accepts, Bool.and_eq_true, List.all_eq_true, List.all_eq_true]
  exact ⟨each, fun name inside => List.contains_iff_mem.mpr (present name inside)⟩

theorem accepts_of_uint32 {least : Int} {word : UInt32} (enough : least ≤ word.toNat) :
    (integer least).accepts (.ofUInt32 word) = true :=
  decide_eq_true enough

theorem accepts_of_uint64 (word : UInt64) : (integer 0).accepts (.ofUInt64 word) = true :=
  decide_eq_true (Int.natCast_nonneg _)

theorem accepts_objects {documents : List Json}
    (objects : ∀ document ∈ documents, document.isObject = true) :
    (list object).accepts (.array documents) = true := by
  rw [accepts, List.all_eq_true]
  intro document inside
  have shape := objects document inside
  cases document with
  | object members => rfl
  | null | bool _ | number _ | string _ | array _ => contradiction

def page : Schema :=
  .record
    [("pageNum", .integer 1), ("pageSize", .integer 1), ("totalNum", .integer 0),
      ("totalPage", .integer 0)]
    ["pageSize", "totalNum", "totalPage"]

/-- The schema that results are published under. -/
def result : Schema :=
  .record [("data", .list .object), ("page", page), ("additionalData", .list .object)] ["data"]

/-- A document that is no object, and a name that is not known. -/
example : result.accepts (.single "data" (.strings ["text"])) = false ∧
    result.accepts (.object [("data", .array []), ("took", .ofUInt64 3)]) = false := by
  decide

end Schema

/-! ## Pages and documents -/

theorem PageSummary.accepted_of_page (page : Page) :
    Schema.page.accepts (ofPage page).toJson = true := by
  have positive (count : PageCount) : (Schema.integer 1).accepts (.ofUInt32 count.word) = true :=
    Schema.accepts_of_uint32 (by exact_mod_cast count.toNat_pos)
  apply Schema.accepts_record
  · rintro ⟨name, value⟩ inside
    rcases List.mem_append.mp inside with optional | required
    · have listed := List.mem_singleton.mp (Entries.mem_of_present.mp optional)
      obtain ⟨rfl, present⟩ := Prod.mk.inj listed
      obtain ⟨word, numbered, rfl⟩ := Option.map_eq_some_iff.mp present.symm
      obtain ⟨count, -, rfl⟩ := Option.map_eq_some_iff.mp numbered
      exact Schema.accepts_member rfl (positive count)
    · simp only [List.mem_cons, Prod.mk.injEq, List.not_mem_nil, or_false] at required
      rcases required with ⟨rfl, rfl⟩ | ⟨rfl, rfl⟩ | ⟨rfl, rfl⟩
      · exact Schema.accepts_member rfl (positive page.size)
      · exact Schema.accepts_member rfl (Schema.accepts_of_uint64 _)
      · exact Schema.accepts_member rfl (Schema.accepts_of_uint64 _)
  · simp [Entries.names]

theorem Hits.document_is_object (highlighted : Option String) (hit : Json) :
    (document highlighted hit).isObject = true := by
  unfold document
  rw [Json.wholeNumbers]
  rfl

/-! ## Envelopes -/

namespace Envelope

structure Conforms (envelope : Envelope) : Prop where
  data : ∀ document ∈ envelope.data, document.isObject = true
  page : ∀ summary, envelope.page = some summary → Schema.page.accepts summary.toJson = true
  additional : ∀ documents, envelope.additional = some documents →
    ∀ document ∈ documents, document.isObject = true

theorem Conforms.accepted {envelope : Envelope} (conforms : envelope.Conforms) :
    Schema.result.accepts envelope.toJson = true := by
  apply Schema.accepts_record
  · rintro ⟨name, value⟩ inside
    rcases List.mem_append.mp inside with required | optional
    · obtain ⟨rfl, rfl⟩ := Prod.mk.inj (List.mem_singleton.mp required)
      exact Schema.accepts_member rfl (Schema.accepts_objects conforms.data)
    · have listed := Entries.mem_of_present.mp optional
      simp only [List.mem_cons, Prod.mk.injEq, List.not_mem_nil, or_false] at listed
      rcases listed with ⟨rfl, present⟩ | ⟨rfl, present⟩
      · obtain ⟨summary, given, rfl⟩ := Option.map_eq_some_iff.mp present.symm
        exact Schema.accepts_member rfl (conforms.page summary given)
      · obtain ⟨documents, given, rfl⟩ := Option.map_eq_some_iff.mp present.symm
        have objects := Schema.accepts_objects (conforms.additional documents given)
        exact Schema.accepts_member rfl objects
  · simp [Entries.names]

theorem documents_are_objects (highlighted : Option String) (json : Json) :
    ∀ document ∈ Hits.documents highlighted json, document.isObject = true := by
  rw [Hits.documents, List.forall_mem_map]
  exact fun hit _ => Hits.document_is_object highlighted hit

theorem conforms_of_answer (request : Request) (json : Json) :
    (ofAnswer request json).Conforms where
  data := documents_are_objects _ json
  page summary given := by
    obtain ⟨page, -, rfl⟩ := Option.map_eq_some_iff.mp given
    exact PageSummary.accepted_of_page _
  additional _ given := by contradiction

theorem Conforms.pushed {envelope : Envelope} (conforms : envelope.Conforms)
    {documents : List Json} (objects : ∀ document ∈ documents, document.isObject = true) :
    (envelope.pushAdditional documents).Conforms where
  data := conforms.data
  page := conforms.page
  additional _ given := by
    injection given with same
    rw [← same, List.forall_mem_append]
    refine ⟨?_, objects⟩
    cases present : envelope.additional with
    | none => simp
    | some earlier => exact conforms.additional earlier present

theorem conforms_of_pairs (pairs : List (Json × Request)) : (ofPairs pairs).Conforms := by
  cases pairs with
  | nil => constructor <;> simp [ofPairs, empty]
  | cons pair rest =>
      rw [ofPairs]
      -- The envelope changes along the fold, and only that it conforms is carried on.
      have begins := conforms_of_answer pair.2 pair.1
      generalize ofAnswer pair.2 pair.1 = envelope at begins
      induction rest generalizing envelope with
      | nil => exact begins
      | cons next rest ih => exact ih _ (begins.pushed (documents_are_objects _ next.1))

theorem conforms_of_answers (answers : List Json) (requests : List Request) :
    (ofAnswers answers requests).Conforms :=
  conforms_of_pairs (answers.zip requests)

theorem data_of_to_json (envelope : Envelope) :
    envelope.toJson.member? "data" = some (.array envelope.data) := rfl

theorem additional_of_to_json (envelope : Envelope) :
    envelope.toJson.member? "additionalData" = envelope.additional.map Json.array := by
  obtain ⟨data, page, additional⟩ := envelope
  cases page <;> cases additional <;> rfl

theorem data_of_listed {hits : List Json} {answer : Json} (request : Request)
    (listed : (answer.member? "hits").bind (Json.member? "hits") = some (.array hits)) :
    (ofAnswer request answer).data = hits.map (Hits.document request.highlightField) := by
  rw [ofAnswer, Hits.documents, Hits.list, listed]
  rfl

theorem length_data_of_listed {hits : Json → List Json} {answers : List Json}
    {requests : List Request} (paired : requests.length = answers.length)
    (listed : ∀ answer ∈ answers,
      (answer.member? "hits").bind (Json.member? "hits") = some (.array (hits answer))) :
    ((answers.zip requests).flatMap fun pair => (ofAnswer pair.2 pair.1).data).length =
      (answers.flatMap hits).length := by
  induction answers generalizing requests with
  | nil => rfl
  | cons answer rest ih =>
      cases requests with
      | nil => contradiction
      | cons request others =>
          rw [List.forall_mem_cons] at listed
          have further := ih (Nat.succ.inj paired) listed.2
          rw [List.zip_cons_cons, List.flatMap_cons, List.flatMap_cons, List.length_append,
            List.length_append, further, data_of_listed request listed.1, List.length_map]

/-- Whatever the answers and the requests are, the envelope conforms to the schema. When there is a
request for each answer and every answer lists its hits, the data are one document for each hit of
the first answer, and the additional data one for each hit of the others, in their order. -/
theorem envelopes_conform_and_hold_every_hit :
    (∀ request json, Schema.result.accepts (ofAnswer request json).toJson = true) ∧
    (∀ answers requests, Schema.result.accepts (ofAnswers answers requests).toJson = true) ∧
    ∀ (hits : Json → List Json) (first : Json) (later : List Json) (request : Request)
      (others : List Request), others.length = later.length →
      (∀ answer ∈ first :: later,
        (answer.member? "hits").bind (Json.member? "hits") = some (.array (hits answer))) →
      let shown := (ofAnswers (first :: later) (request :: others)).toJson
      shown.member? "data" =
          some (.array ((hits first).map (Hits.document request.highlightField))) ∧
        (later = [] → shown.member? "additionalData" = none) ∧
        (later ≠ [] → ∃ documents, shown.member? "additionalData" = some (.array documents) ∧
          documents = (later.zip others).flatMap (fun pair =>
            (hits pair.1).map (Hits.document pair.2.highlightField)) ∧
          documents.length = (later.flatMap hits).length) := by
  refine ⟨fun request json => (conforms_of_answer request json).accepted,
    fun answers requests => (conforms_of_answers answers requests).accepted, ?_⟩
  intro hits first later request others paired listed
  rw [List.forall_mem_cons] at listed
  obtain ⟨listedFirst, listedLater⟩ := listed
  simp only [data_of_to_json, additional_of_to_json, ← data_of_listed request listedFirst]
  cases later with
  | nil =>
      have alone : others = [] := List.length_eq_zero_iff.mp paired
      subst alone
      exact ⟨rfl, fun _ => rfl, fun more => absurd rfl more⟩
  | cons second answers =>
      cases others with
      | nil => contradiction
      | cons other requests =>
          have further : ((second :: answers).zip (other :: requests)).flatMap
              (fun pair => (ofAnswer pair.2 pair.1).data) =
                ((second :: answers).zip (other :: requests)).flatMap fun pair =>
                  (hits pair.1).map (Hits.document pair.2.highlightField) :=
            List.flatMap_congr fun pair inside =>
              data_of_listed pair.2 (listedLater pair.1 (List.of_mem_zip inside).1)
          have counted := length_data_of_listed paired listedLater
          rw [of_answers_cons]
          exact ⟨rfl, fun none => absurd none (List.cons_ne_nil _ _),
            fun _ => ⟨_, rfl, further, counted⟩⟩

def oddHits : List Json :=
  [.null, .single "_source" (.string "text"),
    .single "highlight" (.single "title" (.array [.bool true, .string "!"]))]

def answerWith (hits : List Json) : Json := .single "hits" (.single "hits" (.array hits))

def markedRequest : Request :=
  { Request.empty with highlight := some (Highlight.ofField (some "title")) }

theorem odd_hits_are_all_held :
    ∃ documents,
      (ofAnswers [answerWith oddHits, answerWith [], answerWith oddHits]
        [Request.empty, Request.empty, markedRequest]).toJson.member? "additionalData" =
          some (.array documents) ∧
        documents = [.emptyObject, .emptyObject, .single "title" (.string "true!")] := by
  obtain ⟨-, -, several⟩ := envelopes_conform_and_hold_every_hit
  obtain ⟨-, -, held⟩ := several Hits.list (answerWith oddHits)
    [answerWith [], answerWith oddHits] Request.empty [Request.empty, markedRequest] rfl
    (by
      simp only [List.forall_mem_cons]
      exact ⟨rfl, rfl, rfl, nofun⟩)
  obtain ⟨documents, shown, same, -⟩ := held (by decide)
  exact ⟨documents, shown, same.trans (by decide)⟩

end Envelope

end SearchKit
