import SearchKit.Engine.Dialogue
import SearchKit.Operations.Indexing
import SearchKit.Operations.Writing
import SearchKit.Proofs.Checked
import SearchKit.Proofs.Engine.Acceptance
import SearchKit.Proofs.Operations.Searching

/-!
Instructions to the engine that are answered with yes or no. Each of them comes down to a plan of
actions that are performed in turn for as long as they are accepted, and its answer is settled by
the last action that was sent.
-/

namespace SearchKit

set_option autoImplicit false

variable {σ : Type}

namespace Operation

/-! ## Actions in turn -/

/-- Performs actions one after another, up to the first that is not accepted. Where there are none,
none is accepted. -/
def inTurn : List Action → Operation Bool
  | [] => return false
  | [action] => acknowledge action
  | action :: next :: more => do
      if ← acknowledge action then inTurn (next :: more) else return false

/-- How planned actions come out: what was sent, and the answer. -/
inductive Concludes (planned : List Action) : List Exchange → Except Failure Bool → Prop where
  | nothing (unplanned : planned = []) : Concludes planned [] (.ok false)
  | accepted {exchanges : List Exchange} (some : exchanges ≠ [])
      (all : exchanges.map Exchange.action = planned)
      (succeeded : ∀ exchange ∈ exchanges, exchange.Succeeded) :
      Concludes planned exchanges (.ok true)
  | rejected (earlier : List Exchange) (last : Exchange)
      (front : (earlier ++ [last]).map Exchange.action <+: planned)
      (succeeded : ∀ exchange ∈ earlier, exchange.Succeeded) (rejected : last.Rejected) :
      Concludes planned (earlier ++ [last]) (.ok false)
  | failed (earlier : List Exchange) (last : Exchange) {failure : Failure}
      (front : (earlier ++ [last]).map Exchange.action <+: planned)
      (succeeded : ∀ exchange ∈ earlier, exchange.Succeeded)
      (failed : last.outcome = .error failure) :
      Concludes planned (earlier ++ [last])
        (.error (.operationFailed last.action.name failure.message))

theorem concludes_acknowledge (client : Client σ) (action : Action) (state : σ) :
    let run := transcript client (acknowledge action) state
    Concludes [action] run.exchanges run.result := by
  intro run
  simp only [run, transcript_acknowledge]
  generalize (client.execute state action).outcome = outcome
  cases outcome with
  | error failure => exact .failed [] _ (by simp) (by simp) rfl
  | ok answer =>
      dsimp only
      cases succeeded : answer.succeeded with
      | true =>
          refine .accepted (by simp) rfl (List.forall_mem_singleton.mpr ?_)
          exact ⟨answer, rfl, succeeded⟩
      | false => exact .rejected [] _ (by simp) (by simp) ⟨answer, rfl, succeeded⟩

theorem Concludes.after (exchange : Exchange) (succeeded : exchange.Succeeded)
    {planned : List Action} (some : planned ≠ []) {exchanges : List Exchange}
    {result : Except Failure Bool}
    (further : Concludes planned exchanges result) :
    Concludes (exchange.action :: planned) (exchange :: exchanges) result := by
  cases further with
  | nothing unplanned => exact absurd unplanned some
  | accepted given all each =>
      exact .accepted (by simp) (by simp [all]) (List.forall_mem_cons.mpr ⟨succeeded, each⟩)
  | rejected earlier last front each no =>
      exact .rejected (exchange :: earlier) last (List.cons_prefix_cons.mpr ⟨rfl, front⟩)
        (List.forall_mem_cons.mpr ⟨succeeded, each⟩) no
  | failed earlier last front each outcome =>
      exact .failed (exchange :: earlier) last (List.cons_prefix_cons.mpr ⟨rfl, front⟩)
        (List.forall_mem_cons.mpr ⟨succeeded, each⟩) outcome

theorem concludes_in_turn (client : Client σ) (actions : List Action) (state : σ) :
    let run := transcript client (inTurn actions) state
    Concludes actions run.exchanges run.result := by
  intro run
  induction actions using inTurn.induct generalizing state with
  | case1 => exact .nothing rfl
  | case2 action => exact concludes_acknowledge client action state
  | case3 action next more ih =>
      simp only [run, inTurn, transcript_bind, transcript_acknowledge]
      generalize client.execute state action = turn
      obtain ⟨outcome, events, after⟩ := turn
      cases outcome with
      | error failure => exact .failed [] _ (by simp) (by simp) rfl
      | ok answer =>
          dsimp only
          cases succeeded : answer.succeeded with
          | true =>
              have accepted : (Exchange.mk action (.ok answer)).Succeeded :=
                ⟨answer, rfl, succeeded⟩
              exact Concludes.after _ accepted (List.cons_ne_nil _ _) (ih after)
          | false => exact .rejected [] _ (by simp) (by simp) ⟨answer, rfl, succeeded⟩

namespace Concludes

variable {planned : List Action} {exchanges : List Exchange} {result : Except Failure Bool}

theorem exchanges_front (concludes : Concludes planned exchanges result) :
    exchanges.map Exchange.action <+: planned := by
  cases concludes with
  | nothing unplanned => exact List.nil_prefix
  | accepted _ all _ => exact all ▸ List.prefix_refl _
  | rejected _ _ front _ _ => exact front
  | failed _ _ front _ _ => exact front

theorem all_sent (concludes : Concludes planned exchanges result) (yes : result = .ok true) :
    exchanges.map Exchange.action = planned := by
  cases concludes with
  | accepted _ all _ => exact all
  | nothing _ => simp at yes
  | rejected _ _ _ _ _ => simp at yes
  | failed _ _ _ _ _ => simp at yes

theorem planned_eq_nil (concludes : Concludes planned [] result) : planned = [] := by
  generalize sent : ([] : List Exchange) = exchanges at concludes
  cases concludes with
  | nothing unplanned => exact unplanned
  | accepted some _ _ => exact absurd sent.symm some
  | rejected _ _ _ _ _ => simp at sent
  | failed _ _ _ _ _ => simp at sent

theorem front_succeeded (concludes : Concludes planned exchanges result) :
    ∀ exchange ∈ exchanges.dropLast, exchange.Succeeded := by
  cases concludes with
  | nothing _ => simp
  | accepted _ _ succeeded =>
      exact fun exchange member => succeeded exchange (List.dropLast_subset _ member)
  | rejected _ _ _ succeeded _ => simpa using succeeded
  | failed _ _ _ succeeded _ => simpa using succeeded

theorem result_true_iff (concludes : Concludes planned exchanges result) :
    result = .ok true ↔ exchanges ≠ [] ∧ ∀ exchange ∈ exchanges, exchange.Succeeded := by
  cases concludes with
  | nothing _ => simp
  | accepted some _ succeeded => exact iff_of_true rfl ⟨some, succeeded⟩
  | rejected _ _ _ _ rejected =>
      refine iff_of_false (by simp) fun ⟨_, all⟩ => ?_
      exact (all _ (by simp)).not_rejected rejected
  | failed _ _ _ _ failed =>
      refine iff_of_false (by simp) fun ⟨_, all⟩ => ?_
      exact Exchange.Failed.not_succeeded ⟨_, failed⟩ (all _ (by simp))

theorem result_false_iff (concludes : Concludes planned exchanges result) :
    result = .ok false ↔ exchanges = [] ∨ ∃ last ∈ exchanges.getLast?, last.Rejected := by
  cases concludes with
  | nothing _ => simp
  | accepted some _ succeeded =>
      refine iff_of_false (by simp) ?_
      rintro (none | ⟨last, isLast, rejected⟩)
      · exact some none
      · exact (succeeded last (List.mem_of_mem_getLast? isLast)).not_rejected rejected
  | rejected _ _ _ _ rejected => exact iff_of_true rfl (.inr ⟨_, by simp, rejected⟩)
  | failed _ _ _ _ failed =>
      refine iff_of_false (by simp) ?_
      simpa using Exchange.Failed.not_rejected ⟨_, failed⟩

theorem result_failed_iff (concludes : Concludes planned exchanges result) :
    (∃ operation text, result = .error (.operationFailed operation text)) ↔
      ∃ last ∈ exchanges.getLast?, last.Failed := by
  cases concludes with
  | nothing _ => simp
  | accepted _ _ succeeded =>
      refine iff_of_false (by simp) ?_
      rintro ⟨last, isLast, failed⟩
      exact failed.not_succeeded (succeeded last (List.mem_of_mem_getLast? isLast))
  | rejected _ _ _ _ rejected =>
      refine iff_of_false (by simp) ?_
      simpa using fun failed => Exchange.Failed.not_rejected failed rejected
  | failed _ _ _ _ failed => exact iff_of_true ⟨_, _, rfl⟩ ⟨_, by simp, _, failed⟩

end Concludes

theorem checked_map_bind {α β : Type} (checked : Except Refusal α) (change : α → β)
    (next : β → Operation Bool) :
    (ofChecked (checked.map change) >>= next) =
      ofChecked checked >>= fun value => next (change value) := by
  cases checked with
  | error refusal => rfl
  | ok value => simp [ofChecked, Except.map]

theorem bind_same_answer (operation : Operation Bool) :
    (operation >>= fun yes => if yes then pure true else pure false) = operation := by
  have same : (fun yes : Bool => if yes then pure true else pure false : Bool → Operation Bool) =
      pure := by
    funext yes
    cases yes <;> rfl
  rw [same, bind_pure]

end Operation

/-! ## Instructions -/

inductive Instruction where
  | createIndex (index : String) (settings : Option Json) (docType : Option String)
      (mapping : Option Json)
  | indexExists (index : String)
  | deleteIndex (index : String)
  | putMapping (index docType : String) (mapping : Json)
  | saveDocument (index docType : String) (id : Option String) (document : Json)
  | saveIdentified (index docType : String) (document : Json)
  | saveBulk (index docType : String) (documents : List Json)
  | updateDocument (index docType id : String) (payload : Json)
  | deleteDocument (index docType id : String)
  | deleteByQuery (index docType query : String)

namespace Instruction

open Operation

def perform : Instruction → Operation Bool
  | .createIndex index settings docType mapping =>
      Operation.createIndex index settings docType mapping
  | .indexExists index => Operation.indexExists index
  | .deleteIndex index => Operation.deleteIndex index
  | .putMapping index docType mapping => Operation.putMapping index docType mapping
  | .saveDocument index docType id document => Operation.saveDocument index docType id document
  | .saveIdentified index docType document => Operation.saveIdentified index docType document
  | .saveBulk index docType documents => Operation.saveBulk index docType documents
  | .updateDocument index docType id payload => Operation.updateDocument index docType id payload
  | .deleteDocument index docType id => Operation.deleteDocument index docType id
  | .deleteByQuery index docType query => Operation.deleteByQuery index docType query

def creation (index : String) (settings : Option Json) : Action :=
  .createIndex index (settings.filter fun value => !isBlankSettings value)

/-- The actions of an instruction, unless it is refused. -/
def plan : Instruction → Except Refusal (List Action)
  | .createIndex index settings docType mapping =>
      (typedMapping docType mapping).map fun typed =>
        creation index settings ::
          (typed.map fun typed => Action.putMapping index typed.1 typed.2).toList
  | .indexExists index => .ok [.indexExists index]
  | .deleteIndex index => .ok [.deleteIndex index]
  | .putMapping index docType mapping => .ok [.putMapping index docType mapping]
  | .saveDocument index docType id document => .ok [.indexDocument index docType id document]
  | .saveIdentified index docType document =>
      .ok (document.documentId?.map fun id =>
        Action.indexDocument index docType (some id) document).toList
  | .saveBulk index docType documents =>
      .ok (if indexItems index docType documents = [] then []
        else [.bulk (indexItems index docType documents)])
  | .updateDocument index docType id payload => .ok [.bulk [.update ⟨index, docType, id⟩ payload]]
  | .deleteDocument index docType id => .ok [.bulk [.delete ⟨index, docType, id⟩]]
  | .deleteByQuery index docType query =>
      ((Json.ofText query).mapError .deleteQueryNotJson).map fun parsed =>
        [.deleteByQuery index docType parsed]

theorem perform_eq_plan (instruction : Instruction) :
    instruction.perform = ofChecked instruction.plan >>= inTurn := by
  cases instruction with
  | createIndex index settings docType mapping =>
      rw [perform, plan, checked_map_bind, Operation.createIndex]
      congr 1
      funext typed
      cases typed with
      | none => exact bind_same_answer (acknowledge (creation index settings))
      | some typed => rfl
  | saveIdentified index docType document =>
      rw [perform, plan, Operation.saveIdentified]
      cases document.documentId? <;> rfl
  | saveBulk index docType documents =>
      rw [perform, plan, Operation.saveBulk]
      cases indexItems index docType documents <;> rfl
  | deleteByQuery index docType query => rw [perform, plan, checked_map_bind]; rfl
  | _ => rfl

/-- There is nothing to save, since no document has an id. -/
def NothingIdentified : Instruction → Prop
  | .saveIdentified _ _ document => document.documentId? = none
  | .saveBulk _ _ documents => ∀ document ∈ documents, document.documentId? = none
  | _ => False

theorem plan_eq_nil_iff (instruction : Instruction) :
    instruction.plan = .ok [] ↔ instruction.NothingIdentified := by
  cases instruction with
  | createIndex index settings docType mapping =>
      cases typed : typedMapping docType mapping <;>
        simp [plan, NothingIdentified, typed, Except.map]
  | saveIdentified index docType document => simp [plan, NothingIdentified]
  | saveBulk index docType documents => simp [plan, NothingIdentified, indexItems]
  | deleteByQuery index docType query =>
      cases read : (Json.ofText query).mapError Refusal.deleteQueryNotJson <;>
        simp [plan, NothingIdentified, read, Except.map]
  | indexExists _ | deleteIndex _ | putMapping _ _ _ | saveDocument _ _ _ _
  | updateDocument _ _ _ _ | deleteDocument _ _ _ => simp [plan, NothingIdentified]

theorem perform_cases (instruction : Instruction) (client : Client σ) (state : σ) :
    let run := transcript client instruction.perform state
    (∃ refusal, instruction.plan = .error refusal ∧
        run.result = .error (.invalidRequest refusal) ∧ run.exchanges = []) ∨
      ∃ planned, instruction.plan = .ok planned ∧ Concludes planned run.exchanges run.result := by
  intro run
  simp only [run, perform_eq_plan, transcript_checked_bind]
  cases instruction.plan with
  | error refusal => exact .inl ⟨refusal, rfl, rfl, rfl⟩
  | ok planned => exact .inr ⟨planned, rfl, concludes_in_turn client planned state⟩

theorem vouches_perform (instruction : Instruction) : Vouches instruction.perform := by
  intro σ client state yes
  rcases perform_cases instruction client state with
    ⟨refusal, -, refused, -⟩ | ⟨planned, -, concludes⟩
  · simp [yes] at refused
  · exact (concludes.result_true_iff.mp yes).2

/-- What is sent when an index is created with a mapping: the creation, and the mapping after it was
accepted. -/
structure MapsAfterCreation (index : String) (settings : Option Json) (docType : Option String)
    (mapping : Json) (run : Transcript σ (Except Failure Bool)) : Prop where
  mapping_is_second : ∀ mapped ∈ run.exchanges, ∀ other name value,
    mapped.action = .putMapping other name value →
      ∃ made, run.exchanges = [made, mapped] ∧ made.action = creation index settings ∧
        made.Succeeded
  yes_means_both : run.result = .ok true →
    ∃ made mapped, run.exchanges = [made, mapped] ∧
      made.action = creation index settings ∧ made.Succeeded ∧
      (∃ name, docType = some name ∧ mapped.action = .putMapping index name mapping) ∧
      mapped.Succeeded

theorem typed_mapping_eq_ok {docType : Option String} {mapping : Json}
    {typed : Option (String × Json)} (checked : typedMapping docType (some mapping) = .ok typed) :
    ∃ name, docType = some name ∧ typed = some (name, mapping) := by
  cases docType with
  | none => simp [typedMapping] at checked
  | some name =>
      by_cases empty : name.isEmpty = true
      · simp [typedMapping, empty] at checked
      · simp only [typedMapping, empty, Bool.false_eq_true, if_false, Except.ok.injEq] at checked
        exact ⟨name, rfl, checked.symm⟩

theorem sent_of_two {exchanges : List Exchange} {first second : Action}
    (front : exchanges.map Exchange.action <+: [first, second]) :
    exchanges = [] ∨ (∃ made, exchanges = [made] ∧ made.action = first) ∨
      ∃ made further, exchanges = [made, further] ∧ made.action = first ∧
        further.action = second := by
  match exchanges with
  | [] => exact .inl rfl
  | [made] => exact .inr (.inl ⟨made, rfl, by simpa using front⟩)
  | [made, further] => exact .inr (.inr ⟨made, further, rfl, by simpa using front⟩)
  | _ :: _ :: _ :: _ => simpa using front.length_le

theorem maps_after_creation (index : String) (settings : Option Json) (docType : Option String)
    (mapping : Json) (client : Client σ) (state : σ) :
    MapsAfterCreation index settings docType mapping (transcript client
      (perform (.createIndex index settings docType (some mapping))) state) := by
  rcases perform_cases (.createIndex index settings docType (some mapping)) client state with
    ⟨refusal, -, refused, unsent⟩ | ⟨planned, plan, concludes⟩
  · exact ⟨by simp [unsent], by simp [refused]⟩
  · rw [Instruction.plan, Checked.map_eq_ok] at plan
    obtain ⟨typed, checked, rfl⟩ := plan
    obtain ⟨name, rfl, rfl⟩ := typed_mapping_eq_ok checked
    have front := concludes.front_succeeded
    rcases sent_of_two concludes.exchanges_front with unsent | ⟨made, sent, isCreation⟩ |
      ⟨made, mapped, sent, isCreation, isMapping⟩
    · refine ⟨by simp [unsent], fun yes => ?_⟩
      exact absurd unsent (concludes.result_true_iff.mp yes).1
    · refine ⟨by simp [sent, isCreation, creation], fun yes => ?_⟩
      simpa [sent] using concludes.all_sent yes
    · have accepted : made.Succeeded := front made (by simp [sent])
      refine ⟨?_, fun yes => ?_⟩
      · intro other member _ _ _ isOther
        rw [sent, List.mem_pair] at member
        rcases member with rfl | rfl
        · rw [isCreation, creation] at isOther
          contradiction
        · exact ⟨made, sent, isCreation, accepted⟩
      · have all := (concludes.result_true_iff.mp yes).2
        exact ⟨made, mapped, sent, isCreation, accepted, ⟨name, rfl, isMapping⟩,
          all mapped (by simp [sent])⟩

/-- The answer to an instruction means what was accepted. All actions but the last are accepted
ones; the answer is yes exactly when something was sent and all of it was accepted, and no exactly
when the last action was rejected or no document had an id; only a last action that failed in the
client is a failure of the operation. A mapping is sent, and answered with yes, only behind a
creation that was accepted. -/
theorem answer_means_acceptance (instruction : Instruction) (client : Client σ) (state : σ) :
    let run := transcript client instruction.perform state
    (∀ exchange ∈ run.exchanges.dropLast, exchange.Succeeded) ∧
    (run.result = .ok true ↔
      run.exchanges ≠ [] ∧ ∀ exchange ∈ run.exchanges, exchange.Succeeded) ∧
    (run.result = .ok false ↔
      (run.exchanges = [] ∧ instruction.NothingIdentified) ∨
        ∃ last ∈ run.exchanges.getLast?, last.Rejected) ∧
    ((∃ operation text, run.result = .error (.operationFailed operation text)) ↔
      ∃ last ∈ run.exchanges.getLast?, last.Failed) ∧
    ∀ index settings docType mapping,
      instruction = .createIndex index settings docType (some mapping) →
        MapsAfterCreation index settings docType mapping run := by
  intro run
  have mapped : ∀ index settings docType mapping,
      instruction = .createIndex index settings docType (some mapping) →
        MapsAfterCreation index settings docType mapping run := by
    rintro index settings docType mapping rfl
    exact maps_after_creation index settings docType mapping client state
  rcases perform_cases instruction client state with
    ⟨refusal, plan, refused, unsent⟩ | ⟨planned, plan, concludes⟩
  · have identified : ¬instruction.NothingIdentified := by
      rw [← plan_eq_nil_iff, plan]
      simp
    refine ⟨?_, ?_, ?_, ?_, mapped⟩
    · simp [run, unsent]
    · simp [run, unsent, refused]
    · simp [run, unsent, refused, identified]
    · simp [run, unsent, refused]
  · refine ⟨concludes.front_succeeded, concludes.result_true_iff, ?_, concludes.result_failed_iff,
      mapped⟩
    -- Nothing is sent only where nothing was planned, and that is where no document has an id.
    have unidentified : run.exchanges = [] → instruction.NothingIdentified := by
      intro unsent
      have unplanned := (unsent ▸ concludes).planned_eq_nil
      rw [← plan_eq_nil_iff, plan, unplanned]
    rw [concludes.result_false_iff, and_iff_left_of_imp unidentified]

def mappedCreation : Instruction := .createIndex "books" none (some "book") (some .emptyObject)

def acceptsOnce : Scripted :=
  .ofOutcomes [.ok ⟨200, true, none, .null⟩, .ok ⟨400, false, some "HTTP 400", .null⟩]

theorem rejected_mapping_is_answered_no :
    let run := transcript Scripted.client mappedCreation.perform acceptsOnce
    run.result = .ok false ∧
      ∃ made mapped, run.exchanges = [made, mapped] ∧ made.Succeeded ∧ mapped.Rejected := by
  intro run
  have meaning := answer_means_acceptance mappedCreation Scripted.client acceptsOnce
  have rejected : (Exchange.mk (.putMapping "books" "book" .emptyObject)
      (.ok ⟨400, false, some "HTTP 400", .null⟩)).Rejected := ⟨_, rfl, rfl⟩
  have maps := meaning.2.2.2.2 _ _ _ _ rfl
  obtain ⟨made, sent, -, accepted⟩ :=
    maps.mapping_is_second _ (.tail _ (.head _)) "books" "book" .emptyObject rfl
  exact ⟨meaning.2.2.1.mpr (.inr ⟨_, rfl, rejected⟩), made, _, sent, accepted, rejected⟩

end Instruction

end SearchKit
