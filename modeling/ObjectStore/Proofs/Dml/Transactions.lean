import ObjectStore.Proofs.Dml.Batches
import ObjectStore.Proofs.Dml.Requests
import ObjectStore.Proofs.Tables.Transactions

/-!
# Batches on an engine

The statements for a record are changes and selections and nothing else, so a transaction that a batch opens is still pending when its records are done. Each of its ends closes the transaction. The tables are then those before the batch, or if all records are reported as applied, those that the reported statements make of them in order.
-/

namespace ObjectStore.Dml

/-! ### The statements for a record -/

section Statements

variable {className : String} {record : Record} {key : String} {index : Nat} {sql : String} {s : Sql.Statement}

/-- Whether a request only looks for a row. -/
def Request.finds : Request → Bool
  | .find _ _ _ => true
  | _ => false

private theorem finds_of_says {request : Request} (h : request.Says s) :
    if request.finds then ∃ select, s = .select select else s.changesRows = true := by
  cases request with
  | insert table fields =>
    obtain ⟨columns, row, rfl, -⟩ := h
    exact rfl
  | insertDefaults table =>
    subst h
    exact rfl
  | update table fields column key =>
    obtain ⟨assignments, literal, rfl, -⟩ := h
    exact rfl
  | delete table column key =>
    obtain ⟨literal, rfl, -⟩ := h
    exact rfl
  | find table column key =>
    obtain ⟨literal, rfl, -⟩ := h
    exact ⟨_, rfl⟩

theorem isChange_of_request {request : Request} (h : Request.read? sql = some request)
    (hrequest : request.finds = false) : IsChange sql := by
  obtain ⟨s, hread, hs⟩ := Request.says_of_read? h
  have hfinds := finds_of_says hs
  rw [hrequest] at hfinds
  exact ⟨s, hread, hfinds⟩

theorem isQuestion_of_request {request : Request} (h : Request.read? sql = some request)
    (hrequest : request.finds = true) : IsQuestion sql := by
  obtain ⟨s, hread, hs⟩ := Request.says_of_read? h
  have hfinds := finds_of_says hs
  rw [hrequest] at hfinds
  obtain ⟨select, rfl⟩ := hfinds
  exact ⟨select, hread⟩

theorem isChange_insertStatement (h : insertStatement className record = .ok s) : IsChange s.render := by
  refine isChange_of_request (read?_insertStatement h) ?_
  split <;> rfl

theorem isChange_updateStatement (h : updateStatement className record index = .ok s) : IsChange s.render := by
  obtain ⟨id, -, -, hread⟩ := read?_updateStatement h
  exact isChange_of_request hread rfl

theorem isChange_deleteStatement (h : deleteStatement className record index = .ok s) : IsChange s.render := by
  obtain ⟨id, -, -, hread⟩ := read?_deleteStatement h
  exact isChange_of_request hread rfl

theorem isChange_upsertStatement (h : upsertStatement? className record key index = .ok (some s)) :
    IsChange s.render := by
  obtain ⟨value, -, -, hread⟩ := read?_upsertStatement? h
  exact isChange_of_request hread rfl

theorem isQuestion_lookupStatement (h : lookupStatement className record key index = .ok s) : IsQuestion s.render := by
  obtain ⟨value, -, -, hread⟩ := read?_lookupStatement h
  exact isQuestion_of_request hread rfl

end Statements

/-! ### Records in a transaction -/

section Records

variable {δ τ : Type} {engine : Engine δ} {journal : Journal δ τ} {deadline : Deadline} {className : String}
  {record : Record} {key : String} {index : Nat} {intent : Intent} {exchanges : List Exchange} {outcome : Outcome}
  {world after : World δ} {before : τ}

/-- What becomes of a transaction that started with the tables `before` by the statements for a record. -/
def Proceeds (journal : Journal δ τ) (before : τ) (world after : World δ) : Outcome → Prop
  | .ok applied =>
    journal.tables after.state = journal.effect applied.statement (journal.tables world.state) ∧
      journal.saved after.state = some before
  | .error _ => journal.Pending before after

theorem Proceeds.of_tables_eq {next : World δ} (h : Proceeds journal before next after outcome)
    (htables : journal.tables next.state = journal.tables world.state) : Proceeds journal before world after outcome := by
  cases outcome with
  | error e => exact h
  | ok applied =>
    rw [Proceeds, ← htables]
    exact h

variable (hengine : engine.Transactional journal) (hopen : journal.saved world.state = some before)

include hengine hopen

theorem Runs.proceeds {operation : Operation} {statement : Except Error Sql.Statement}
    (h : Runs deadline index operation statement exchanges outcome)
    (hchange : ∀ s, statement = .ok s → IsChange s.render) (hleads : engine.store.Leads world exchanges after) :
    Proceeds journal before world after outcome := by
  cases h with
  | uncompiled e =>
    cases hleads
    exact .inl hopen
  | applied s rows =>
    exact (hengine.changes (hchange s rfl)).succeeds hopen (Engine.guarded_eq_ok (Store.leads_singleton.1 hleads))
  | failed s e => exact Engine.pending_of_error (hengine.changes (hchange s rfl)) hopen (Store.leads_singleton.1 hleads)

theorem question_unchanged {sql : String} {rows : List Row} (hquestion : IsQuestion sql)
    (h : engine.store.call (.query deadline sql) world = (.ok rows, after)) :
    journal.tables after.state = journal.tables world.state ∧ journal.saved after.state = some before := by
  have hwithin := (hengine.asks hquestion).succeeds hopen (Engine.guarded_eq_ok h)
  rwa [hengine.asks_effect hquestion] at hwithin

theorem Upserts.proceeds (h : Upserts deadline className record index key exchanges outcome)
    (hleads : engine.store.Leads world exchanges after) : Proceeds journal before world after outcome := by
  cases h with
  | unasked h =>
    cases hleads
    exact .inl hopen
  | unanswered h e =>
    exact Engine.pending_of_error (hengine.asks (isQuestion_lookupStatement h)) hopen (Store.leads_singleton.1 hleads)
  | absent h hrun =>
    obtain ⟨next, hcall, hrest⟩ := Store.leads_cons.1 hleads
    obtain ⟨htables, hsaved⟩ := question_unchanged hengine hopen (isQuestion_lookupStatement h) hcall
    exact (hrun.proceeds hengine hsaved (fun s hs => isChange_insertStatement (mapError_eq_ok.1 hs)) hrest).of_tables_eq
      htables
  | unwritable h row rows hupdate =>
    exact .inl (question_unchanged hengine hopen (isQuestion_lookupStatement h) (Store.leads_singleton.1 hleads)).2
  | settled h row rows hupdate =>
    have hquestion := isQuestion_lookupStatement h
    obtain ⟨htables, hsaved⟩ := question_unchanged hengine hopen hquestion (Store.leads_singleton.1 hleads)
    exact ⟨htables.trans (hengine.asks_effect hquestion _).symm, hsaved⟩
  | present h row rows hupdate hrun =>
    obtain ⟨next, hcall, hrest⟩ := Store.leads_cons.1 hleads
    obtain ⟨htables, hsaved⟩ := question_unchanged hengine hopen (isQuestion_lookupStatement h) hcall
    refine (hrun.proceeds hengine hsaved (fun s hs => ?_) hrest).of_tables_eq htables
    cases hs
    exact isChange_upsertStatement hupdate

theorem Handles.proceeds (h : Handles deadline className record index intent exchanges outcome)
    (hleads : engine.store.Leads world exchanges after) : Proceeds journal before world after outcome := by
  cases h with
  | foreign h =>
    cases hleads
    exact .inl hopen
  | insert hclass h hrun =>
    exact hrun.proceeds hengine hopen (fun s hs => isChange_insertStatement (mapError_eq_ok.1 hs)) hleads
  | update hclass h hrun => exact hrun.proceeds hengine hopen (fun s hs => isChange_updateStatement hs) hleads
  | delete hclass h hrun => exact hrun.proceeds hengine hopen (fun s hs => isChange_deleteStatement hs) hleads
  | upsert hclass h hupsert => exact hupsert.proceeds hengine hopen hleads

end Records

/-! ### The whole batch -/

section Batches

variable {δ τ : Type} {engine : Engine δ} {journal : Journal δ τ} {deadline : Deadline} {className : String}
  {intent : Intent} {index : Nat} {records : List Record} {exchanges : List Exchange} {world after : World δ} {before : τ}

/-- The tables after statements that are run in order. -/
def replay (journal : Journal δ τ) (statements : List String) (tables : τ) : τ :=
  statements.foldl (fun tables sql => journal.effect sql tables) tables

variable (hengine : engine.Transactional journal)

include hengine

theorem AllApplied.replays {applied : List Applied}
    (h : AllApplied deadline className intent index records exchanges applied)
    (hopen : journal.saved world.state = some before) (hleads : engine.store.Leads world exchanges after) :
    journal.tables after.state = replay journal (applied.map (·.statement)) (journal.tables world.state) ∧
      journal.saved after.state = some before := by
  induction h generalizing world with
  | nil index =>
    cases hleads
    exact ⟨rfl, hopen⟩
  | cons h hrest ih =>
    obtain ⟨next, hfirst, hothers⟩ := Store.leads_append.1 hleads
    obtain ⟨htables, hsaved⟩ := h.proceeds hengine hopen hfirst
    obtain ⟨hreplay, hafter⟩ := ih hsaved hothers
    refine ⟨?_, hafter⟩
    rw [hreplay, htables]
    rfl

theorem StopsAt.pending {failed : Nat} {e : Error} (h : StopsAt deadline className intent failed e index records exchanges)
    (hopen : journal.saved world.state = some before) (hleads : engine.store.Leads world exchanges after) :
    journal.Pending before after := by
  induction h generalizing world with
  | here h => exact h.proceeds hengine hopen hleads
  | later h hrest ih =>
    obtain ⟨next, hfirst, hothers⟩ := Store.leads_append.1 hleads
    exact ih (h.proceeds hengine hopen hfirst).2 hothers

/-- A rollback closes the transaction of a record that failed, whatever it answers. -/
theorem StopsAt.rolled_back {failed : Nat} {e : Error} {answer : Except StoreError Unit}
    (h : StopsAt deadline className intent failed e index records exchanges) (hclosed : journal.saved world.state = none)
    (hleads : engine.store.Leads world
      (⟨.openTransaction deadline, .ok ()⟩ :: (exchanges ++ [⟨.rollback, answer⟩])) after) :
    journal.Closed (journal.tables world.state) after := by
  obtain ⟨opened, hopen, hrest⟩ := Store.leads_cons.1 hleads
  obtain ⟨changed, hchanges, hrollback⟩ := Store.leads_append.1 hrest
  obtain ⟨-, hsaved⟩ := hengine.opens hclosed (Engine.guarded_eq_ok hopen)
  have hrolled := Engine.rollBack_closed hengine (h.pending hengine hsaved hchanges)
  have hcall : engine.rollBack changed = (answer, after) := Store.leads_singleton.1 hrollback
  rwa [hcall] at hrolled

/-- The tables that a batch leaves, from those before it. -/
def outcomeTables (journal : Journal δ τ) (tables : τ) : Except Error Report → τ
  | .error _ => tables
  | .ok report => if report.isSuccess then replay journal report.statements tables else tables

theorem Batch.closed {result : Except Error Report} (h : Batch deadline className intent exchanges result)
    (hclosed : journal.saved world.state = none) (hleads : engine.store.Leads world exchanges after) :
    journal.Closed (outcomeTables journal (journal.tables world.state) result) after := by
  cases h with
  | misnamed h =>
    cases hleads
    exact ⟨rfl, hclosed⟩
  | unopened e =>
    rcases Engine.guarded_eq_error (Store.leads_singleton.1 hleads) with rfl | ⟨failure, hfailure⟩
    · exact ⟨rfl, hclosed⟩
    · obtain ⟨htables, hsaved⟩ := hengine.opens_fails hclosed hfailure
      exact ⟨htables, hsaved.trans hclosed⟩
  | @committed changes applied h =>
    obtain ⟨opened, hopen, hrest⟩ := Store.leads_cons.1 hleads
    obtain ⟨changed, hchanges, hcommit⟩ := Store.leads_append.1 hrest
    obtain ⟨htables, hsaved⟩ := hengine.opens hclosed (Engine.guarded_eq_ok hopen)
    obtain ⟨hreplay, hpending⟩ := h.replays hengine hsaved hchanges
    have hcommitted := Engine.commit_closed hengine hpending (Store.leads_singleton.1 hcommit)
    rw [hreplay, htables] at hcommitted
    rwa [outcomeTables, if_pos (Report.isSuccess_applied applied), Report.statements_applied]
  | uncommitted h e =>
    obtain ⟨opened, hopen, hrest⟩ := Store.leads_cons.1 hleads
    obtain ⟨changed, hchanges, hcommit⟩ := Store.leads_append.1 hrest
    obtain ⟨-, hsaved⟩ := hengine.opens hclosed (Engine.guarded_eq_ok hopen)
    obtain ⟨-, hpending⟩ := h.replays hengine hsaved hchanges
    exact Engine.failed_commit_closed hengine hpending (Store.leads_singleton.1 hcommit)
  | undone h =>
    have hrestored := h.rolled_back hengine hclosed hleads
    rwa [outcomeTables, h.isSuccess_rolledBack, if_neg Bool.false_ne_true]
  | stuck h e => exact h.rolled_back hengine hclosed hleads

end Batches

/-- A batch in one transaction over an engine leaves no transaction open. If it fails as a whole or a record is reported as failed, the tables are as before. If all records are reported as applied, the tables are what the reported statements make of those before, in the order of the records. -/
theorem batch_leaves_tables_whole {δ τ : Type} {engine : Engine δ} {journal : Journal δ τ}
    (hengine : engine.Transactional journal) (deadline : Deadline) (className : String) (intent : Intent)
    (world : World δ) (hclosed : journal.saved world.state = none) :
    journal.saved (executeFor engine.store .atomic deadline className intent world).2.state = none ∧
      journal.tables (executeFor engine.store .atomic deadline className intent world).2.state =
        match (executeFor engine.store .atomic deadline className intent world).1 with
        | .error _ => journal.tables world.state
        | .ok report =>
          if report.isSuccess then
            report.statements.foldl (fun tables sql => journal.effect sql tables) (journal.tables world.state)
          else journal.tables world.state := by
  obtain ⟨exchanges, hmakes, hbatch⟩ := executeFor_performs engine.store deadline className intent world
  obtain ⟨htables, hsaved⟩ := hbatch.closed hengine hclosed hmakes.leads
  refine ⟨hsaved, htables.trans ?_⟩
  cases (executeFor engine.store .atomic deadline className intent world).1 <;> rfl

/-- One table with one row. -/
def oneAccount : Tables.Database :=
  ⟨[⟨"Account", [⟨"id", .text, true⟩, ⟨"name", .text, false⟩], [[.text "12345", .text "hoge"]]⟩], none, 0⟩

/-- Two new records, of which the second has the key of a row that exists. -/
def clashingAccounts : Intent :=
  ⟨.insert, "Account", [⟨"Account", [("Id", .string "abcde")]⟩, ⟨"Account", [("Id", .string "12345")]⟩], none⟩

def accountsWorld : World Tables.Database := ⟨⟨0, [], 1⟩, oneAccount⟩

theorem tables_whole_after_clash :
    Tables.journal.saved accountsWorld.state = none ∧
      ((executeFor Tables.engine.store .atomic ⟨none, 0⟩ "Account" clashingAccounts accountsWorld).1.map
        Report.isSuccess).toOption = some false ∧
      Tables.journal.saved
        (executeFor Tables.engine.store .atomic ⟨none, 0⟩ "Account" clashingAccounts accountsWorld).2.state = none ∧
      Tables.journal.tables
        (executeFor Tables.engine.store .atomic ⟨none, 0⟩ "Account" clashingAccounts accountsWorld).2.state =
          oneAccount.tables := by
  have hfailed : ((executeFor Tables.engine.store .atomic ⟨none, 0⟩ "Account" clashingAccounts accountsWorld).1.map
      Report.isSuccess).toOption = some false := by decide +kernel
  obtain ⟨hsaved, htables⟩ :=
    batch_leaves_tables_whole Tables.engine_transactional ⟨none, 0⟩ "Account" clashingAccounts accountsWorld rfl
  refine ⟨rfl, hfailed, hsaved, ?_⟩
  rw [htables]
  generalize (executeFor Tables.engine.store .atomic ⟨none, 0⟩ "Account" clashingAccounts accountsWorld).1 = result
    at hfailed
  cases result with
  | error e => rfl
  | ok report =>
    have hreport : report.isSuccess = false := Option.some.inj hfailed
    dsimp only
    rw [hreport, if_neg Bool.false_ne_true]
    rfl

end ObjectStore.Dml
