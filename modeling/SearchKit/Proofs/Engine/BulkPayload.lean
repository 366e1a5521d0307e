import SearchKit.Proofs.Json.Lines

/-!
The text of a bulk action and what it says. An action line names what is done with which document;
behind it comes one line with the payload, unless the document is deleted. What a payload looks like
makes no difference: its line is taken as it is.
-/

namespace SearchKit

set_option autoImplicit false

/-! ## Targets -/

namespace DocumentRef

def ofJson? (json : Json) : Option DocumentRef := do
  let index ← (json.member? "_index").bind Json.asString?
  let docType ← (json.member? "_type").bind Json.asString?
  let id ← (json.member? "_id").bind Json.asString?
  return ⟨index, docType, id⟩

theorem of_json_to_json (document : DocumentRef) : ofJson? document.toJson = some document := by
  simp [ofJson?, toJson, Json.member?, Entries.find?, Json.asString?]

theorem plain_to_json (document : DocumentRef) : Json.Plain 1 document.toJson := by
  apply Json.Plain.object
  · simp [Entries.names]
  · intro member inside
    simp only [List.mem_cons, List.not_mem_nil, or_false] at inside
    rcases inside with rfl | rfl | rfl
    all_goals exact Json.Plain.string 0 _

end DocumentRef

/-! ## Records -/

/-- What the lines of one item say, with the payload as the text of its line. -/
inductive BulkRecord where
  | index (target : DocumentRef) (payload : String)
  | update (target : DocumentRef) (payload : String)
  | delete (target : DocumentRef)
deriving DecidableEq, Repr

namespace BulkItem

def record : BulkItem → BulkRecord
  | .index target source => .index target source.text
  | .update target payload => .update target payload.text
  | .delete target => .delete target

def payload? : BulkItem → Option Json
  | .index _ source => some source
  | .update _ payload => some payload
  | .delete _ => none

theorem record_injective {item other : BulkItem} (same : item.record = other.record) :
    item = other := by
  cases item <;> cases other <;>
    simp only [record, BulkRecord.index.injEq, BulkRecord.update.injEq, BulkRecord.delete.injEq,
      reduceCtorEq] at same
  · rw [same.1, Json.text_injective same.2]
  · rw [same.1, Json.text_injective same.2]
  · rw [same]

end BulkItem

namespace BulkRecord

/-- An action line says all about a deletion, and all but the payload about anything else. -/
inductive Announcement where
  | whole (record : BulkRecord)
  | beforePayload (record : String → BulkRecord)

def announcement? (line : String) : Option Announcement :=
  match Json.ofLine? line with
  | some (.object [(action, target)]) => do
      let document ← DocumentRef.ofJson? target
      if action = "index" then some (.beforePayload (.index document))
      else if action = "update" then some (.beforePayload (.update document))
      else if action = "delete" then some (.whole (.delete document))
      else none
  | _ => none

def ofLines? : List String → Option (List BulkRecord)
  | [] => some []
  | line :: rest =>
      match announcement? line, rest with
      | some (.whole record), rest => (ofLines? rest).map (record :: ·)
      | some (.beforePayload record), payload :: further =>
          (ofLines? further).map (record payload :: ·)
      | some (.beforePayload _), [] => none
      | none, _ => none

def ofText? (text : String) : Option (List BulkRecord) := ofLines? (Action.linesOf text)

def item? : BulkRecord → Option BulkItem
  | .index target payload => (Json.ofLine? payload).map (.index target)
  | .update target payload => (Json.ofLine? payload).map (.update target)
  | .delete target => some (.delete target)

theorem announcement_of_action (action : String) (document : DocumentRef) :
    announcement? (Json.single action document.toJson).text =
      if action = "index" then some (.beforePayload (.index document))
      else if action = "update" then some (.beforePayload (.update document))
      else if action = "delete" then some (.whole (.delete document))
      else none := by
  have read := Json.of_line_text (Json.Plain.single action document.plain_to_json)
  rw [announcement?, read]
  simp [Json.single, DocumentRef.of_json_to_json]

theorem of_lines_whole {line : String} {record : BulkRecord}
    (announced : announcement? line = some (.whole record)) (rest : List String) :
    ofLines? (line :: rest) = (ofLines? rest).map (record :: ·) := by
  rw [ofLines?.eq_def]
  simp only [announced]

theorem of_lines_before_payload {line : String} {record : String → BulkRecord}
    (announced : announcement? line = some (.beforePayload record)) (payload : String)
    (rest : List String) :
    ofLines? (line :: payload :: rest) = (ofLines? rest).map (record payload :: ·) := by
  rw [ofLines?.eq_def]
  simp only [announced]

theorem of_lines_of_item (item : BulkItem) (rest : List String) :
    ofLines? (item.lines.map Json.text ++ rest) = (ofLines? rest).map (item.record :: ·) := by
  cases item with
  | index target source =>
      have announced := announcement_of_action "index" target
      rw [if_pos rfl] at announced
      exact of_lines_before_payload announced source.text rest
  | update target payload =>
      have announced := announcement_of_action "update" target
      rw [if_neg (by decide), if_pos rfl] at announced
      exact of_lines_before_payload announced payload.text rest
  | delete target =>
      have announced := announcement_of_action "delete" target
      rw [if_neg (by decide), if_neg (by decide), if_pos rfl] at announced
      exact of_lines_whole announced rest

theorem of_lines_of_items (items : List BulkItem) :
    ofLines? ((items.flatMap BulkItem.lines).map Json.text) = some (items.map BulkItem.record) := by
  induction items with
  | nil => rfl
  | cons item rest ih =>
      rw [List.flatMap_cons, List.map_append, of_lines_of_item, ih]
      rfl

theorem item_of_record {item : BulkItem}
    (plain : ∀ payload ∈ item.payload?, ∃ depth, Json.Plain depth payload) :
    item.record.item? = some item := by
  cases item with
  | index target payload | update target payload =>
      obtain ⟨depth, readable⟩ := plain payload rfl
      simp only [BulkItem.record, item?, Json.of_line_text readable, Option.map_some]
  | delete target => rfl

end BulkRecord

namespace BulkItem

theorem lines_ne_nil {items : List BulkItem} (some : items ≠ []) :
    items.flatMap lines ≠ [] := by
  obtain ⟨first, rest, rfl⟩ := List.exists_cons_of_ne_nil some
  cases first <;> simp [lines]

theorem lines_injective {items others : List BulkItem}
    (same : items.flatMap lines = others.flatMap lines) : items = others := by
  have records := BulkRecord.of_lines_of_items items
  rw [same, BulkRecord.of_lines_of_items others] at records
  injection records with sameRecords
  exact List.map_injective_iff.mpr (fun _ _ => record_injective) sameRecords.symm

end BulkItem

/-- A bulk text is cut into the lines of its items, says which items they were, and is the text of
no other items. A payload is read back from its line when it has no floating point number; that no
name comes twice in an object holds of all objects that were read or put together by name. -/
theorem bulk_payload_is_uniquely_decodable {items : List BulkItem} (nonempty : items ≠ []) :
    ∃ text, (Action.bulk items).body = some text ∧
      (∃ lines, text = lines ++ "\n") ∧
      Text.split '\n' text = (items.flatMap BulkItem.lines).map Json.text ++ [""] ∧
      (∀ line ∈ Action.linesOf text, '\n' ∉ line.toList ∧ '\r' ∉ line.toList) ∧
      BulkRecord.ofText? text = some (items.map BulkItem.record) ∧
      (∀ item ∈ items, (∀ payload ∈ item.payload?, ∃ depth, Json.Plain depth payload) →
        item.record.item? = some item) ∧
      ∀ others, (Action.bulk others).body = some text → others = items := by
  have lines := BulkItem.lines_ne_nil nonempty
  have cut := Action.lines_of_lines_text lines
  refine ⟨_, rfl, ⟨_, rfl⟩, Action.split_lines_text lines, ?_, ?_, ?_, ?_⟩
  · intro line member
    rw [cut] at member
    obtain ⟨json, -, rfl⟩ := List.mem_map.mp member
    exact ⟨json.control_not_mem_text (by decide), json.control_not_mem_text (by decide)⟩
  · rw [BulkRecord.ofText?, cut]
    exact BulkRecord.of_lines_of_items items
  · intro item _ plain
    exact BulkRecord.item_of_record plain
  · intro others same
    injection same with sameText
    exact BulkItem.lines_injective (Action.lines_text_injective sameText)

theorem document_like_a_deletion_is_decoded :
    let document := Json.single "delete" (DocumentRef.toJson ⟨"books", "book", "8"⟩)
    let items := [BulkItem.index ⟨"books", "book", "7\n"⟩ document, .delete ⟨"books", "book", "9"⟩]
    ∃ text, (Action.bulk items).body = some text ∧
      BulkRecord.ofText? text =
        some [.index ⟨"books", "book", "7\n"⟩ document.text, .delete ⟨"books", "book", "9"⟩] ∧
      (∀ item ∈ items, item.record.item? = some item) ∧
      ∀ others, (Action.bulk others).body = some text → others = items := by
  intro document items
  obtain ⟨text, sent, -, -, -, read, back, only⟩ :=
    bulk_payload_is_uniquely_decodable (List.cons_ne_nil _ _ : items ≠ [])
  refine ⟨text, sent, read, ?_, only⟩
  intro item member
  apply back item member
  intro payload isPayload
  have plain : Json.Plain 2 document := Json.Plain.single "delete" (DocumentRef.plain_to_json _)
  simp only [items, List.mem_cons, List.not_mem_nil, or_false] at member
  rcases member with rfl | rfl
  · rw [BulkItem.payload?, Option.mem_some_iff] at isPayload
    exact ⟨2, isPayload ▸ plain⟩
  · contradiction

end SearchKit
