import ObjectStore.Proofs.Dml.Exchanges
import ObjectStore.Proofs.Sql.Identifier

/-!
# Batches in one transaction

A batch opens a transaction, applies its records up to the first that fails, and commits if there was none. So it either reports every record as applied, or none: the record that failed has its own failure and all others are rolled back with it. A failure of the whole is one of a name, and then nothing was asked of the store, or one of the calls that open and close the transaction.
-/

namespace ObjectStore.Dml

section Relations

variable (deadline : Deadline) (className : String) (intent : Intent)

/-- The records from the position `index` on are applied one after another. -/
inductive AllApplied : Nat → List Record → List Exchange → List Applied → Prop where
  | nil (index : Nat) : AllApplied index [] [] []
  | cons {index : Nat} {record : Record} {records : List Record} {first rest : List Exchange} {applied : Applied}
      {others : List Applied} (h : Handles deadline className record index intent first (.ok applied))
      (hrest : AllApplied (index + 1) records rest others) :
      AllApplied index (record :: records) (first ++ rest) (applied :: others)

/-- The records from the position `index` on are applied one after another up to the one at `failed`. -/
inductive StopsAt (failed : Nat) (e : Error) : Nat → List Record → List Exchange → Prop where
  | here {record : Record} {records : List Record} {exchanges : List Exchange}
      (h : Handles deadline className record failed intent exchanges (.error e)) :
      StopsAt failed e failed (record :: records) exchanges
  | later {index : Nat} {record : Record} {records : List Record} {first rest : List Exchange} {applied : Applied}
      (h : Handles deadline className record index intent first (.ok applied))
      (hrest : StopsAt failed e (index + 1) records rest) : StopsAt failed e index (record :: records) (first ++ rest)

def Advances (index : Nat) (records : List Record) (exchanges : List Exchange) :
    Except (Nat × Error) (List Applied) → Prop
  | .ok applied => AllApplied deadline className intent index records exchanges applied
  | .error (failed, e) => StopsAt deadline className intent failed e index records exchanges

/-- A batch in one transaction. -/
inductive Batch : List Exchange → Except Error Report → Prop where
  | misnamed {e : CompileError} (h : checkNames className intent = .error e) : Batch [] (.error (.compile e))
  | unopened (e : StoreError) : Batch [⟨.openTransaction deadline, .error e⟩] (.error (transactionError e))
  | committed {changes : List Exchange} {applied : List Applied}
      (h : AllApplied deadline className intent 0 intent.records changes applied) :
      Batch (⟨.openTransaction deadline, .ok ()⟩ :: (changes ++ [⟨.commit deadline, .ok ()⟩])) (.ok ⟨applied.map .ok⟩)
  | uncommitted {changes : List Exchange} {applied : List Applied}
      (h : AllApplied deadline className intent 0 intent.records changes applied) (e : StoreError) :
      Batch (⟨.openTransaction deadline, .ok ()⟩ :: (changes ++ [⟨.commit deadline, .error e⟩]))
        (.error (transactionError e))
  | undone {changes : List Exchange} {failed : Nat} {own : Error}
      (h : StopsAt deadline className intent failed own 0 intent.records changes) :
      Batch (⟨.openTransaction deadline, .ok ()⟩ :: (changes ++ [⟨.rollback, .ok ()⟩]))
        (.ok ⟨rolledBack intent.records.length failed own⟩)
  | stuck {changes : List Exchange} {failed : Nat} {own : Error}
      (h : StopsAt deadline className intent failed own 0 intent.records changes) (e : StoreError) :
      Batch (⟨.openTransaction deadline, .ok ()⟩ :: (changes ++ [⟨.rollback, .error e⟩])) (.error (transactionError e))

end Relations

/-! ### What is done is such a batch -/

section Performs

open Procedure (Performs)

variable {σ : Type} (store : Store σ) (deadline : Deadline) (className : String) (intent : Intent)

theorem applyWhileOk_performs (index : Nat) (records : List Record) (world : World σ) :
    Performs (fun _ store => applyWhileOk store deadline className intent index records) store world
      (Advances deadline className intent index records) := by
  induction records generalizing index world with
  | nil => exact .pure (fun _ _ _ => rfl) (.nil index)
  | cons record records ih =>
    refine (applyRecord_performs store deadline className record index world intent).bind
      fun first next outcome hhandles _ => ?_
    cases outcome with
    | error e =>
      refine ⟨fun _ _ world => (.error (index, e), world), fun τ store world next h => ?_, .pure (fun _ _ _ => rfl) ?_⟩
      · rw [applyWhileOk, h]
      · rw [List.append_nil]
        exact .here hhandles
    | ok applied =>
      refine ⟨fun _ store world => Prod.map (Except.map (applied :: ·)) id
        (applyWhileOk store deadline className intent (index + 1) records world), fun τ store world next h => ?_,
        (ih (index + 1) next).map _ (fun _ _ _ => rfl) fun rest result hadvances => ?_⟩
      · rw [applyWhileOk, h]
        dsimp only
        rcases applyWhileOk store deadline className intent (index + 1) records next with ⟨failure | others, after⟩ <;> rfl
      · cases result with
        | error failure => exact .later hhandles hadvances
        | ok others => exact .cons hhandles hadvances

/-- The result of a batch, if its transaction could be closed. -/
def reported (report : Report) (closed : Except StoreError Unit) : Except Error Report :=
  (closed.mapError transactionError).map fun _ => report

/-- Ends the transaction as the records came out. -/
def finish (store : Store σ) (deadline : Deadline) (count : Nat) :
    Except (Nat × Error) (List Applied) × World σ → Except Error Report × World σ
  | (.ok applied, world) =>
    Prod.map (reported ⟨applied.map .ok⟩) id (store.commit deadline world)
  | (.error (failed, e), world) => Prod.map (reported ⟨rolledBack count failed e⟩) id (store.rollback world)

theorem applyTogether_of_open {world next : World σ} (h : store.openTransaction deadline world = (.ok (), next)) :
    applyTogether store deadline className intent world = finish store deadline intent.records.length
      (applyWhileOk store deadline className intent 0 intent.records next) := by
  rw [applyTogether, Store.inTransaction, h]
  dsimp only [batchBody]
  rcases applyWhileOk store deadline className intent 0 intent.records next with ⟨⟨failed, e⟩ | applied, after⟩
  · dsimp only [finish]
    rcases store.rollback after with ⟨e | _, last⟩ <;> rfl
  · dsimp only [finish]
    rcases store.commit deadline after with ⟨e | _, last⟩ <;> rfl

theorem executeFor_performs (world : World σ) :
    Performs (fun _ store => executeFor store .atomic deadline className intent) store world
      (Batch deadline className intent) := by
  cases hnames : checkNames className intent with
  | error e =>
    refine .pure (fun τ store world => ?_) (.misnamed hnames)
    rw [executeFor, hnames]
  | ok _ =>
    have heq : ∀ (τ : Type) (store : Store τ) world, executeFor store .atomic deadline className intent world =
        applyTogether store deadline className intent world := fun τ store world => by
      rw [executeFor, hnames]
    refine .call (.openTransaction deadline) fun answer next _ => ?_
    cases answer with
    | error e =>
      refine ⟨fun _ _ world => (.error (transactionError e), world), fun τ store world next h => ?_,
        .pure (fun _ _ _ => rfl) (.unopened e)⟩
      change store.openTransaction deadline world = _ at h
      rw [heq, applyTogether, Store.inTransaction, h]
    | ok _ =>
      refine ⟨fun _ store world => finish store deadline intent.records.length
        (applyWhileOk store deadline className intent 0 intent.records world), fun τ store world next h => ?_,
        (applyWhileOk_performs store deadline className intent 0 intent.records next).bind
          fun changes after result hadvances _ => ?_⟩
      · rw [heq, applyTogether_of_open store deadline className intent h]
      cases result with
      | ok applied =>
        refine ⟨fun _ store world => finish store deadline intent.records.length (.ok applied, world),
          fun τ store world next h => by rw [h], (Performs.single (.commit deadline)).map (reported _) (fun _ _ _ => rfl) ?_⟩
        rintro calls (e | _) rfl
        · exact .uncommitted hadvances e
        · exact .committed hadvances
      | error failure =>
        refine ⟨fun _ store world => finish store deadline intent.records.length (.error failure, world),
          fun τ store world next h => by rw [h], (Performs.single .rollback).map (reported _) (fun _ _ _ => rfl) ?_⟩
        rintro calls (e | _) rfl
        · exact .stuck hadvances e
        · exact .undone hadvances

end Performs

/-! ### All or nothing -/

section Reports

variable {deadline : Deadline} {className : String} {intent : Intent}

theorem AllApplied.length_eq {index : Nat} {records : List Record} {exchanges : List Exchange} {applied : List Applied}
    (h : AllApplied deadline className intent index records exchanges applied) : applied.length = records.length := by
  induction h with
  | nil index => rfl
  | cons h hrest ih => rw [List.length_cons, List.length_cons, ih]

/-- Before the record that fails all are applied, and nothing is asked for those after it. -/
theorem StopsAt.split {failed index : Nat} {e : Error} {records : List Record} {exchanges : List Exchange}
    (h : StopsAt deadline className intent failed e index records exchanges) :
    ∃ before record after done failing applied, records = before ++ record :: after ∧ failed = index + before.length ∧
      AllApplied deadline className intent index before done applied ∧
      Handles deadline className record failed intent failing (.error e) ∧ exchanges = done ++ failing := by
  induction h with
  | @here record records exchanges h => exact ⟨[], record, records, [], exchanges, [], rfl, rfl, .nil failed, h, rfl⟩
  | @later index record records first rest applied h hrest ih =>
    obtain ⟨before, other, after, done, failing, others, rfl, hfailed, hdone, hfailing, rfl⟩ := ih
    refine ⟨record :: before, other, after, first ++ done, failing, applied :: others, rfl, ?_, .cons h hdone, hfailing, ?_⟩
    · rw [hfailed, List.length_cons]
      omega
    · rw [List.append_assoc]

theorem checkNames_eq_error {e : CompileError} (h : checkNames className intent = .error e) :
    ∃ name, (name = className ∨ intent.upsertKey = some name) ∧ Text.isIdentifier name = false ∧
      e = .invalidIdentifier name := by
  rcases bind_eq_error.1 h with h | ⟨_, -, h⟩
  · obtain ⟨hname, rfl⟩ := checkIdentifier_eq_error h
    exact ⟨className, .inl rfl, hname, rfl⟩
  · cases hkey : intent.upsertKey with
    | none =>
      rw [hkey] at h
      cases h
    | some key =>
      rw [hkey] at h
      rcases bind_eq_error.1 h with h | ⟨_, -, h⟩
      · obtain ⟨hname, rfl⟩ := checkIdentifier_eq_error h
        exact ⟨key, .inr rfl, hname, rfl⟩
      · cases h

theorem getElem?_rolledBack (count failed : Nat) (e : Error) {index : Nat} (h : index < count) :
    (rolledBack count failed e)[index]? =
      some (.error (if index = failed then e else .execution (.rolledBack index))) := by
  rw [rolledBack, List.getElem?_map, List.getElem?_range h, Option.map_some]

theorem Report.isSuccess_applied (applied : List Applied) : Report.isSuccess ⟨applied.map .ok⟩ = true := by
  rw [Report.isSuccess, List.all_map]
  exact List.all_eq_true.2 fun _ _ => rfl

theorem Report.statements_applied (applied : List Applied) :
    Report.statements ⟨applied.map .ok⟩ = applied.map (·.statement) := by
  rw [Report.statements, List.filterMap_map]
  exact List.filterMap_eq_map_iff_forall_eq_some.2 fun _ _ => rfl

theorem StopsAt.isSuccess_rolledBack {failed index : Nat} {e : Error} {records : List Record}
    {exchanges : List Exchange} (h : StopsAt deadline className intent failed e index records exchanges) :
    Report.isSuccess ⟨rolledBack records.length failed e⟩ = false := by
  obtain ⟨before, record, after, done, failing, applied, rfl, -⟩ := h.split
  rw [Report.isSuccess, rolledBack, List.all_map, List.length_append, List.length_cons]
  exact List.all_eq_false.2 ⟨0, List.mem_range.2 (by omega), Bool.false_ne_true⟩

end Reports

/-- A batch in one transaction reports all records as applied or none. In the first case its calls are the opening, those for the records in order, and the commit. In the second case one record has a failure of its own and all others are rolled back with it, and the calls are the opening, those for the records up to that one, and the rollback. Or else the batch fails as a whole, without a call because a name is no identifier, or because a call that opens or closes the transaction failed. -/
theorem batch_all_or_nothing {σ : Type} (store : Store σ) (deadline : Deadline) (className : String) (intent : Intent)
    (world : World σ) :
    ∃ exchanges,
      Procedure.Makes (fun _ store => executeFor store .atomic deadline className intent) store world exchanges ∧
      ((∃ applied changes,
          (executeFor store .atomic deadline className intent world).1 = .ok ⟨applied.map .ok⟩ ∧
          applied.length = intent.records.length ∧
          AllApplied deadline className intent 0 intent.records changes applied ∧
          exchanges = ⟨.openTransaction deadline, .ok ()⟩ :: (changes ++ [⟨.commit deadline, .ok ()⟩])) ∨
        (∃ outcomes before record after done failing applied own,
          (executeFor store .atomic deadline className intent world).1 = .ok ⟨outcomes⟩ ∧
          outcomes.length = intent.records.length ∧ intent.records = before ++ record :: after ∧
          outcomes[before.length]? = some (.error own) ∧ IsOwn own ∧
          (∀ index < intent.records.length, index ≠ before.length →
            outcomes[index]? = some (.error (.execution (.rolledBack index)))) ∧
          AllApplied deadline className intent 0 before done applied ∧
          Handles deadline className record before.length intent failing (.error own) ∧
          exchanges = ⟨.openTransaction deadline, .ok ()⟩ :: (done ++ failing ++ [⟨.rollback, .ok ()⟩])) ∨
        (∃ name, (executeFor store .atomic deadline className intent world).1 =
            .error (.compile (.invalidIdentifier name)) ∧
          (name = className ∨ intent.upsertKey = some name) ∧ Text.isIdentifier name = false ∧ exchanges = []) ∨
        ∃ (cause : StoreError) (changes : List Exchange),
          (executeFor store .atomic deadline className intent world).1 = .error (match cause with
            | .timeout t => .timeout t
            | .rejected reason => .execution (.transaction reason)) ∧
          (exchanges = [⟨.openTransaction deadline, .error cause⟩] ∨
            exchanges = ⟨.openTransaction deadline, .ok ()⟩ :: (changes ++ [⟨.commit deadline, .error cause⟩]) ∨
            exchanges = ⟨.openTransaction deadline, .ok ()⟩ :: (changes ++ [⟨.rollback, .error cause⟩]))) := by
  obtain ⟨exchanges, hmakes, hbatch⟩ := executeFor_performs store deadline className intent world
  refine ⟨exchanges, hmakes, ?_⟩
  have hcause : ∀ cause : StoreError, transactionError cause = (match cause with
      | .timeout t => .timeout t
      | .rejected reason => .execution (.transaction reason)) := fun cause => by
    cases cause <;> rfl
  generalize (executeFor store .atomic deadline className intent world).1 = result at hbatch
  cases hbatch with
  | misnamed h =>
    obtain ⟨name, hname, hidentifier, rfl⟩ := checkNames_eq_error h
    exact .inr (.inr (.inl ⟨name, rfl, hname, hidentifier, rfl⟩))
  | unopened cause => exact .inr (.inr (.inr ⟨cause, [], by rw [hcause], .inl rfl⟩))
  | @committed changes applied h => exact .inl ⟨applied, changes, rfl, h.length_eq, h, rfl⟩
  | @uncommitted changes applied h cause =>
    exact .inr (.inr (.inr ⟨cause, changes, by rw [hcause], .inr (.inl rfl)⟩))
  | @stuck changes failed own h cause =>
    exact .inr (.inr (.inr ⟨cause, changes, by rw [hcause], .inr (.inr rfl)⟩))
  | @undone changes failed own h =>
    obtain ⟨before, record, after, done, failing, applied, hrecords, hfailed, hdone, hfailing, rfl⟩ := h.split
    rw [Nat.zero_add] at hfailed
    subst hfailed
    have hlength : before.length < intent.records.length := by
      rw [hrecords, List.length_append, List.length_cons]
      omega
    refine .inr (.inl ⟨_, before, record, after, done, failing, applied, own, rfl, ?_, hrecords, ?_,
      hfailing.failsAlone own rfl, fun index hindex hne => ?_, hdone, hfailing, rfl⟩)
    · rw [rolledBack, List.length_map, List.length_range]
    · rw [getElem?_rolledBack _ _ _ hlength, if_pos rfl]
    · rw [getElem?_rolledBack _ _ _ hindex, if_neg hne]

end ObjectStore.Dml
