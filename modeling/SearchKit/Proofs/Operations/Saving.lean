import SearchKit.Proofs.Engine.BulkPayload
import SearchKit.Proofs.Operations.SavingInOrder

/-!
Saving documents in bulk against saving them one by one, on a client that accepts everything. The
items of the one action and the further actions say the same about the same documents, and what they
leave in a store is the same too.
-/

namespace SearchKit

set_option autoImplicit false

variable {σ τ : Type}

/-! ## Stores -/

/-- A store of documents. Saving overwrites what was saved at the same place and nothing else. -/
structure DocumentStore (τ : Type) where
  save : τ → DocumentRef → Json → τ
  find? : τ → DocumentRef → Option Json
  find_saved : ∀ content target source, find? (save content target source) target = some source
  find_other : ∀ content target source other, other ≠ target →
    find? (save content target source) other = find? content other

namespace DocumentStore

def saveAll (store : DocumentStore τ) (content : τ) (saved : List (DocumentRef × Json)) : τ :=
  saved.foldl (fun content entry => store.save content entry.1 entry.2) content

def lastAt? (target : DocumentRef) (saved : List (DocumentRef × Json)) : Option Json :=
  (saved.filter fun entry => entry.1 = target).getLast?.map Prod.snd

theorem find_save_all (store : DocumentStore τ) (content : τ) (saved : List (DocumentRef × Json))
    (target : DocumentRef) :
    store.find? (store.saveAll content saved) target =
      (lastAt? target saved).or (store.find? content target) := by
  induction saved using List.reverseRecOn with
  | nil => rfl
  | append_singleton earlier entry ih =>
      have step : store.saveAll content (earlier ++ [entry]) =
          store.save (store.saveAll content earlier) entry.1 entry.2 := by
        simp [saveAll]
      rw [step]
      by_cases same : entry.1 = target
      · rw [← same, store.find_saved]
        simp [lastAt?]
      · rw [store.find_other _ _ _ _ (Ne.symm same), ih]
        simp [lastAt?, same]

end DocumentStore

def Client.AcceptsAll (client : Client σ) : Prop :=
  ∀ state action, ∃ answer, (client.execute state action).outcome = .ok answer ∧
    answer.succeeded = true

/-- The state of the client holds a store, in which it saves what it is told to, in order. -/
structure DocumentStore.KeptBy (store : DocumentStore τ) (client : Client σ) (held : σ → τ) :
    Prop where
  single : ∀ state (target : DocumentRef) source,
    held (client.execute state
      (.indexDocument target.index target.docType (some target.id) source)).state =
        store.save (held state) target source
  bulk : ∀ state (saved : List (DocumentRef × Json)),
    held (client.execute state
      (.bulk (saved.map fun entry => .index entry.1 entry.2))).state =
        store.saveAll (held state) saved

/-! ## What is sent -/

/-- The documents that have an id, with the places where they are saved. -/
def identified (index docType : String) (documents : List Json) : List (DocumentRef × Json) :=
  documents.filterMap fun document =>
    document.documentId?.map fun id => (⟨index, docType, id⟩, document)

def savingAction (entry : DocumentRef × Json) : Action :=
  .indexDocument entry.1.index entry.1.docType (some entry.1.id) entry.2

theorem index_items_eq (index docType : String) (documents : List Json) :
    Operation.indexItems index docType documents =
      (identified index docType documents).map fun entry => .index entry.1 entry.2 := by
  simp [Operation.indexItems, identified, List.map_filterMap, Function.comp_def]

theorem identified_ne_nil {index docType : String} {documents : List Json}
    (given : ∃ document ∈ documents, document.documentId?.isSome) :
    identified index docType documents ≠ [] := by
  obtain ⟨document, inside, present⟩ := given
  obtain ⟨id, named⟩ := Option.isSome_iff_exists.mp present
  exact List.ne_nil_of_mem (List.mem_filterMap.mpr
    ⟨document, inside, by rw [named]; rfl⟩ : (⟨index, docType, id⟩, document) ∈ _)

namespace Operation

theorem transcript_acknowledge_accepted {client : Client σ} (accepts : client.AcceptsAll)
    (action : Action) (state : σ) :
    let run := transcript client (acknowledge action) state
    run.result = .ok true ∧ run.exchanges.map Exchange.action = [action] ∧
      run.state = (client.execute state action).state := by
  obtain ⟨answer, outcome, succeeded⟩ := accepts state action
  rw [transcript_acknowledge]
  simp [outcome, succeeded]

theorem answered_of_accepts_all {client : Client σ} (accepts : client.AcceptsAll)
    (actions : List Action) (state : σ) :
    ∀ exchange ∈ client.exchanges state actions, exchange.HasAnswer := by
  induction actions generalizing state with
  | nil => simp [Client.exchanges]
  | cons action rest ih =>
      obtain ⟨answer, outcome, -⟩ := accepts state action
      exact List.forall_mem_cons.mpr ⟨⟨answer, outcome⟩, ih _⟩

theorem savings_eq (index docType : String) (documents : List Json) :
    savings index docType Json.documentId? documents =
      (identified index docType documents).map savingAction := by
  simp [savings, identified, savingAction, List.map_filterMap, Function.comp_def]

theorem transcript_save_each {client : Client σ} (accepts : client.AcceptsAll)
    (index docType : String) (documents : List Json) (state : σ) :
    let run := transcript client (saveEach index docType Json.documentId? documents) state
    let actions := (identified index docType documents).map savingAction
    run.result = .ok () ∧ run.exchanges.map Exchange.action = actions ∧
      run.state = stateAfter client state actions := by
  intro run actions
  obtain ⟨saves, after⟩ :=
    save_each_until_failure client index docType Json.documentId? documents state
  obtain ⟨sent, result⟩ := saves.of_answered (answered_of_accepts_all accepts _ state)
  have performed : run.exchanges.map Exchange.action = actions := by
    simp only [run, sent, client.actions_of_exchanges, savings_eq, actions]
  exact ⟨result, performed, performed ▸ after⟩

theorem transcript_save_list {client : Client σ} (accepts : client.AcceptsAll)
    {index docType : String} {documents : List Json}
    (nonempty : identified index docType documents ≠ []) (state : σ) :
    let run := transcript client (saveList index docType documents) state
    let actions := (identified index docType documents).map savingAction
    run.result = .ok () ∧ run.exchanges.map Exchange.action = actions ∧
      run.state = stateAfter client state actions := by
  have given : documents.isEmpty = false := by
    cases documents with
    | nil => exact absurd rfl nonempty
    | cons first rest => rfl
  have loop : saveList index docType documents =
      saveEach index docType Json.documentId? documents := by
    rw [saveList, saveListBy, given]
    rfl
  rw [loop]
  exact transcript_save_each accepts index docType documents state

theorem transcript_save_bulk {client : Client σ} (accepts : client.AcceptsAll)
    {index docType : String} {documents : List Json}
    (nonempty : identified index docType documents ≠ []) (state : σ) :
    let run := transcript client (saveBulk index docType documents) state
    let action := Action.bulk
      ((identified index docType documents).map fun entry => .index entry.1 entry.2)
    run.result = .ok true ∧ run.exchanges.map Exchange.action = [action] ∧
      run.state = (client.execute state action).state := by
  have given : (indexItems index docType documents).isEmpty = false := by
    simpa [index_items_eq] using nonempty
  have sent : saveBulk index docType documents =
      acknowledge (.bulk (indexItems index docType documents)) := by
    simp [saveBulk, given]
  rw [sent, index_items_eq]
  exact transcript_acknowledge_accepted accepts _ state

end Operation

/-! ## What a store keeps -/

theorem DocumentStore.KeptBy.state_after {store : DocumentStore τ} {client : Client σ}
    {held : σ → τ} (kept : store.KeptBy client held) (saved : List (DocumentRef × Json))
    (state : σ) :
    held (Operation.stateAfter client state (saved.map savingAction)) =
      store.saveAll (held state) saved := by
  induction saved generalizing state with
  | nil => rfl
  | cons entry rest ih =>
      have step := kept.single state entry.1 entry.2
      rw [DocumentStore.saveAll, List.foldl_cons, ← step]
      exact ih _

/-! ## What the texts say -/

/-- A record of a bulk text against an action: the place in the one is the path of the other, and
the payload of the one is the body of the other. -/
def BulkRecord.SaysSame (record : BulkRecord) (action : Action) : Prop :=
  ∃ target payload, record = .index target payload ∧
    action.segments = [target.index, target.docType, target.id] ∧ action.body = some payload

theorem bulk_text_says_same {saved : List (DocumentRef × Json)} (nonempty : saved ≠ []) :
    ∃ text records,
      (Action.bulk (saved.map fun entry => .index entry.1 entry.2)).body = some text ∧
        BulkRecord.ofText? text = some records ∧
        List.Forall₂ BulkRecord.SaysSame records (saved.map savingAction) := by
  let items : List BulkItem := saved.map fun entry => .index entry.1 entry.2
  have some : items ≠ [] := by simpa [items] using nonempty
  refine ⟨_, items.map BulkItem.record, rfl, ?_, ?_⟩
  · rw [BulkRecord.ofText?, Action.lines_of_lines_text (BulkItem.lines_ne_nil some)]
    exact BulkRecord.of_lines_of_items items
  · rw [List.map_map, List.forall₂_map_left_iff, List.forall₂_map_right_iff]
    exact List.forall₂_same.mpr fun entry _ => ⟨entry.1, entry.2.text, rfl, rfl, rfl⟩

theorem sources_of_identified (index docType : String) (documents : List Json) :
    (identified index docType documents).map Prod.snd =
      documents.filter fun document => document.documentId?.isSome := by
  induction documents with
  | nil => rfl
  | cons document rest ih =>
      cases named : document.documentId? with
      | none => simpa [identified, named] using ih
      | some id => simpa [identified, named] using ih

theorem place_of_identified {index docType : String} {documents : List Json}
    {entry : DocumentRef × Json} (inside : entry ∈ identified index docType documents) :
    entry.1.index = index ∧ entry.1.docType = docType ∧
      entry.2.documentId? = some entry.1.id := by
  obtain ⟨document, -, made⟩ := List.mem_filterMap.mp inside
  obtain ⟨id, named, rfl⟩ := Option.map_eq_some_iff.mp made
  exact ⟨rfl, rfl, named⟩

/-- Saving in bulk and saving one by one index the same documents, those that have an id, with the
same places and sources and in the same order. The text of the bulk action says of every document
what the path and the body of its own action say. In a store both leave the same, which is at every
place the document that came last. -/
theorem bulk_and_single_saving_agree (client : Client σ) (accepts : client.AcceptsAll)
    (index docType : String) (documents : List Json)
    (given : ∃ document ∈ documents, document.documentId?.isSome) (state : σ) :
    let bulk := Operation.transcript client (Operation.saveBulk index docType documents) state
    let single := Operation.transcript client (Operation.saveList index docType documents) state
    bulk.result = .ok true ∧ single.result = .ok () ∧
    ∃ saved : List (DocumentRef × Json),
      saved.map Prod.snd = documents.filter (fun document => document.documentId?.isSome) ∧
      (∀ entry ∈ saved, entry.1.index = index ∧ entry.1.docType = docType ∧
        entry.2.documentId? = some entry.1.id) ∧
      bulk.exchanges.map Exchange.action =
        [.bulk (saved.map fun entry => .index entry.1 entry.2)] ∧
      single.exchanges.map Exchange.action = saved.map (fun entry =>
        .indexDocument entry.1.index entry.1.docType (some entry.1.id) entry.2) ∧
      (∃ text records,
        (Action.bulk (saved.map fun entry => .index entry.1 entry.2)).body = some text ∧
        BulkRecord.ofText? text = some records ∧
        List.Forall₂ BulkRecord.SaysSame records (single.exchanges.map Exchange.action)) ∧
      ∀ {τ : Type} (store : DocumentStore τ) (held : σ → τ), store.KeptBy client held →
        held bulk.state = held single.state ∧
          ∀ target, store.find? (held bulk.state) target =
            (DocumentStore.lastAt? target saved).or (store.find? (held state) target) := by
  intro bulk single
  have nonempty : identified index docType documents ≠ [] := identified_ne_nil given
  obtain ⟨bulkResult, bulkActions, bulkState⟩ :=
    Operation.transcript_save_bulk accepts nonempty state
  obtain ⟨singleResult, singleActions, singleState⟩ :=
    Operation.transcript_save_list accepts nonempty state
  refine ⟨bulkResult, singleResult, identified index docType documents,
    sources_of_identified index docType documents, fun entry => place_of_identified, bulkActions,
    singleActions, ?_, fun store held kept => ?_⟩
  · rw [singleActions]
    exact bulk_text_says_same nonempty
  · have afterBulk : held bulk.state =
        store.saveAll (held state) (identified index docType documents) := by
      rw [bulkState]
      exact kept.bulk state _
    have afterSingle : held single.state =
        store.saveAll (held state) (identified index docType documents) := by
      rw [singleState]
      exact kept.state_after _ state
    refine ⟨afterBulk.trans afterSingle.symm, fun target => ?_⟩
    rw [afterBulk, store.find_save_all]

def placeTable : DocumentStore (DocumentRef → Option Json) where
  save content target source := Function.update content target (some source)
  find? content := content
  find_saved content target source := Function.update_self target (some source) content
  find_other content _ source _ different := Function.update_of_ne different (some source) content

def tableClient : Client (DocumentRef → Option Json) where
  execute content action :=
    ⟨.ok (.success .null), [],
      match action with
      | .indexDocument index docType (some id) source =>
          placeTable.save content ⟨index, docType, id⟩ source
      | .bulk items => placeTable.saveAll content <| items.filterMap fun
          | .index target source => some (target, source)
          | _ => none
      | _ => content⟩

theorem kept_by_table_client : placeTable.KeptBy tableClient id where
  single _ _ _ := rfl
  bulk content saved := by
    simp [tableClient, List.filterMap_map]

def documentsOfSeven : List Json :=
  [.object [("id", .ofUInt64 7), ("title", .string "first")], .single "id" .null, .bool true,
    .single "id" (.array [.bool true]), .object [("id", .string "7"), ("title", .string "last")]]

theorem seven_is_saved_alike :
    let bulk := Operation.transcript tableClient
      (Operation.saveBulk "books" "book" documentsOfSeven) fun _ => none
    let single := Operation.transcript tableClient
      (Operation.saveList "books" "book" documentsOfSeven) fun _ => none
    bulk.result = .ok true ∧ single.result = .ok () ∧ single.exchanges.length = 3 ∧
      bulk.state = single.state ∧
      bulk.state ⟨"books", "book", "7"⟩ =
        some (.object [("id", .string "7"), ("title", .string "last")]) := by
  obtain ⟨accepted, finished, _, -, -, -, -, -, kept⟩ :=
    bulk_and_single_saving_agree tableClient (fun _ _ => ⟨_, rfl, rfl⟩) "books" "book"
      documentsOfSeven ⟨_, .head _, by decide⟩ fun _ => none
  exact ⟨accepted, finished, rfl, (kept placeTable id kept_by_table_client).1, rfl⟩

end SearchKit
