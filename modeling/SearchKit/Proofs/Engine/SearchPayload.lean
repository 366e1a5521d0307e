import SearchKit.Proofs.Json.Decoding
import SearchKit.Proofs.Json.Lines

/-!
The text of a batch of searches and what it says. Every search has two lines: a header with its
scope and its body. Searches are told apart by their position only, so that nothing in a name or in
a body may add a line or take one away.
-/

namespace SearchKit

set_option autoImplicit false

/-! ## Headers -/

namespace Search

def scopeMember (texts : List String) : Option Json :=
  if texts = [] then none else some (.strings texts)

theorem header_eq (search : Search) :
    search.header = .object (Entries.ofPresent
      [("index", scopeMember search.indices), ("type", scopeMember search.types)]) := by
  simp only [header, scopeMember, List.isEmpty_iff]

theorem find_header (search : Search) :
    ∃ members, search.header = .object members ∧
      Entries.find? "index" members = scopeMember search.indices ∧
      Entries.find? "type" members = scopeMember search.types := by
  have distinct : (Entries.names [("index", scopeMember search.indices),
      ("type", scopeMember search.types)]).Nodup := by
    simp [Entries.names]
  refine ⟨_, search.header_eq, ?_, ?_⟩
  · rw [Entries.find_of_present distinct]
    simp [Entries.find?]
  · rw [Entries.find_of_present distinct]
    simp [Entries.find?]

theorem plain_header (search : Search) : Json.Plain 2 search.header := by
  rw [header_eq]
  apply Json.Plain.object
  · apply (Entries.names_of_present_sublist _).nodup
    simp [Entries.names]
  · intro member inside
    have listed := Entries.mem_of_present.mp inside
    have plain {texts : List String} {value : Json} (there : some value = scopeMember texts) :
        Json.Plain 1 value := by
      rw [scopeMember] at there
      split at there
      · contradiction
      · injection there with same
        exact same ▸ Json.Plain.strings 0 texts
    simp only [List.mem_cons, Prod.mk.injEq, List.not_mem_nil, or_false] at listed
    rcases listed with ⟨-, there⟩ | ⟨-, there⟩
    · exact plain there
    · exact plain there

end Search

/-! ## Records -/

/-- What the two lines of one search say, with the body as the text of its line. -/
structure SearchRecord where
  indices : List String
  types : List String
  body : String
deriving DecidableEq, Repr

def Search.record (search : Search) : SearchRecord :=
  ⟨search.indices, search.types, search.body.text⟩

theorem Search.record_injective {search other : Search} (same : search.record = other.record) :
    search = other := by
  cases search
  cases other
  simp only [record, SearchRecord.mk.injEq] at same
  obtain ⟨sameIndices, sameTypes, sameBody⟩ := same
  rw [sameIndices, sameTypes, Json.text_injective sameBody]

namespace SearchRecord

def names? : Option Json → Option (List String)
  | none => some []
  | some (.array items) => items.mapM Json.asString?
  | some _ => none

def ofPair? (header body : String) : Option SearchRecord :=
  match Json.ofLine? header with
  | some (.object members) => do
      let indices ← names? (Entries.find? "index" members)
      let types ← names? (Entries.find? "type" members)
      return ⟨indices, types, body⟩
  | _ => none

def ofLines? : List String → Option (List SearchRecord)
  | [] => some []
  | [_] => none
  | header :: body :: rest => do
      let record ← ofPair? header body
      let further ← ofLines? rest
      return record :: further

def ofText? (text : String) : Option (List SearchRecord) := ofLines? (Action.linesOf text)

def search? (record : SearchRecord) : Option Search :=
  (Json.ofLine? record.body).map fun body => ⟨record.indices, record.types, body⟩

theorem names_of_scope_member (texts : List String) :
    names? (Search.scopeMember texts) = some texts := by
  rw [Search.scopeMember]
  split
  · rename_i none
    rw [none]
    rfl
  · exact Json.Decoder.texts_of_strings texts

theorem of_pair_of_search (search : Search) :
    ofPair? search.header.text search.body.text = some search.record := by
  obtain ⟨members, isObject, indices, types⟩ := search.find_header
  have read := Json.of_line_text search.plain_header
  rw [ofPair?, read, isObject]
  simp [indices, types, names_of_scope_member, Search.record]

theorem of_lines_of_searches (searches : List Search) :
    ofLines? ((searches.flatMap Search.batchLines).map Json.text) =
      some (searches.map Search.record) := by
  induction searches with
  | nil => rfl
  | cons search rest ih =>
      have shape : ((search :: rest).flatMap Search.batchLines).map Json.text =
          search.header.text :: search.body.text
            :: (rest.flatMap Search.batchLines).map Json.text := rfl
      rw [shape, ofLines?, of_pair_of_search, ih]
      rfl

theorem search_of_record {search : Search} {depth : Nat} (plain : Json.Plain depth search.body) :
    search.record.search? = some search := by
  rw [search?, Search.record, Json.of_line_text plain]
  rfl

end SearchRecord

namespace Search

theorem batch_lines_ne_nil {searches : List Search} (nonempty : searches ≠ []) :
    searches.flatMap batchLines ≠ [] := by
  obtain ⟨first, rest, rfl⟩ := List.exists_cons_of_ne_nil nonempty
  simp [batchLines]

theorem batch_lines_injective {searches others : List Search}
    (same : searches.flatMap batchLines = others.flatMap batchLines) : searches = others := by
  have records := SearchRecord.of_lines_of_searches searches
  rw [same, SearchRecord.of_lines_of_searches others] at records
  injection records with sameRecords
  exact List.map_injective_iff.mpr (fun _ _ => record_injective) sameRecords.symm

theorem batch_lines_at {searches : List Search} {position : Nat}
    (inside : position < searches.length) :
    (searches.flatMap batchLines)[2 * position]? = some searches[position].header ∧
      (searches.flatMap batchLines)[2 * position + 1]? = some searches[position].body := by
  induction searches generalizing position with
  | nil => contradiction
  | cons search rest ih =>
      have shape : (search :: rest).flatMap batchLines =
          search.header :: search.body :: rest.flatMap batchLines := rfl
      rw [shape]
      cases position with
      | zero => exact ⟨rfl, rfl⟩
      | succ position =>
          have further := ih (Nat.lt_of_succ_lt_succ inside)
          rw [Nat.mul_succ]
          simpa using further

theorem length_batch_lines (searches : List Search) :
    (searches.flatMap batchLines).length = 2 * searches.length := by
  induction searches with
  | nil => rfl
  | cons search rest ih =>
      rw [List.flatMap_cons, List.length_append, ih]
      simp only [batchLines, List.length_cons, List.length_nil]
      omega

end Search

section Batch

variable {searches : List Search} {text : String}

theorem length_lines_of_batch (sent : (Action.multiSearch searches).body = some text)
    (nonempty : searches ≠ []) : (Action.linesOf text).length = 2 * searches.length := by
  injection sent with same
  rw [← same, Action.lines_of_lines_text (Search.batch_lines_ne_nil nonempty), List.length_map,
    Search.length_batch_lines]

theorem lines_of_batch_at (sent : (Action.multiSearch searches).body = some text) {position : Nat}
    (inside : position < searches.length) :
    (Action.linesOf text)[2 * position + 1]? = some searches[position].body.text ∧
      ∃ header members, (Action.linesOf text)[2 * position]? = some header ∧
        Json.ofText header = .ok (.object members) ∧
        Entries.find? "index" members = Search.scopeMember searches[position].indices ∧
        Entries.find? "type" members = Search.scopeMember searches[position].types := by
  have nonempty : searches ≠ [] := List.ne_nil_of_length_pos (by omega)
  injection sent with same
  have cut := Action.lines_of_lines_text (Search.batch_lines_ne_nil nonempty)
  obtain ⟨headerLine, bodyLine⟩ := Search.batch_lines_at inside
  obtain ⟨members, isObject, indices, types⟩ := searches[position].find_header
  have plain := searches[position].plain_header.mono (by decide : 2 ≤ Json.nestingLimit)
  rw [← same, cut, List.getElem?_map, List.getElem?_map, headerLine, bodyLine]
  refine ⟨rfl, searches[position].header.text, members, rfl, ?_, indices, types⟩
  rw [Json.of_text_of_text plain, isObject]

end Batch

/-- The text of a batch has two lines for each search: at twice its position the scope of the search
as an object, and behind it the body. So the text says which searches they were, in their order, and
is the text of no other searches. -/
theorem batch_payload_is_uniquely_decodable {searches : List Search} (nonempty : searches ≠ []) :
    ∃ text, (Action.multiSearch searches).body = some text ∧
      (∃ lines, text = lines ++ "\n") ∧
      Text.split '\n' text = Action.linesOf text ++ [""] ∧
      (Action.linesOf text).length = 2 * searches.length ∧
      (∀ (position : Nat) (inside : position < searches.length),
        ∃ header members, (Action.linesOf text)[2 * position]? = some header ∧
          Json.ofText header = .ok (.object members) ∧
          Entries.find? "index" members = Search.scopeMember searches[position].indices ∧
          Entries.find? "type" members = Search.scopeMember searches[position].types ∧
          (Action.linesOf text)[2 * position + 1]? = some searches[position].body.text) ∧
      SearchRecord.ofText? text = some (searches.map Search.record) ∧
      (∀ search ∈ searches, (∃ depth, Json.Plain depth search.body) →
        search.record.search? = some search) ∧
      ∀ others, (Action.multiSearch others).body = some text → others = searches := by
  have lines := Search.batch_lines_ne_nil nonempty
  have cut := Action.lines_of_lines_text lines
  refine ⟨_, rfl, ⟨_, rfl⟩, ?_, ?_, ?_, ?_, ?_, ?_⟩
  · rw [cut, Action.split_lines_text lines]
  · rw [cut, List.length_map, Search.length_batch_lines]
  · intro position inside
    obtain ⟨headerLine, bodyLine⟩ := Search.batch_lines_at inside
    obtain ⟨members, isObject, indices, types⟩ := searches[position].find_header
    have plain := searches[position].plain_header.mono (by decide : 2 ≤ Json.nestingLimit)
    refine ⟨searches[position].header.text, members, ?_, ?_, indices, types, ?_⟩
    · rw [cut, List.getElem?_map, headerLine]
      rfl
    · rw [Json.of_text_of_text plain, isObject]
    · rw [cut, List.getElem?_map, bodyLine]
      rfl
  · rw [SearchRecord.ofText?, cut]
    exact SearchRecord.of_lines_of_searches searches
  · intro search _ ⟨depth, plain⟩
    exact SearchRecord.search_of_record plain
  · intro others same
    injection same with sameText
    exact Search.batch_lines_injective (Action.lines_text_injective sameText)

theorem batch_with_broken_names_is_decoded :
    let searches := [Search.mk ["old\nbooks", "a,b"] [] (.string "\r\n"), ⟨[], [], .null⟩]
    ∃ text, (Action.multiSearch searches).body = some text ∧
      (Action.linesOf text).length = 4 ∧
      SearchRecord.ofText? text =
        some [⟨["old\nbooks", "a,b"], [], (Json.string "\r\n").text⟩, ⟨[], [], "null"⟩] ∧
      (∀ search ∈ searches, search.record.search? = some search) ∧
      ∀ others, (Action.multiSearch others).body = some text → others = searches := by
  intro searches
  obtain ⟨text, sent, -, -, counted, -, read, back, only⟩ :=
    batch_payload_is_uniquely_decodable (List.cons_ne_nil _ _ : searches ≠ [])
  refine ⟨text, sent, counted, read, ?_, only⟩
  intro search member
  apply back search member
  refine ⟨0, ?_⟩
  simp only [searches, List.mem_cons, List.not_mem_nil, or_false] at member
  rcases member with rfl | rfl
  · exact Json.Plain.string 0 _
  · exact ⟨Json.fits_null 0, rfl⟩

end SearchKit
