import ObjectStore.Proofs.Dml.Isolation

/-!
# What a report tells of the calls

Record by record, the calls of a batch fall into pieces, one for each record: the piece of a record is what applying it asks of the store that the records before it have left. A record's outcome and its piece tell the same story. The outcome of a record that was applied names the last of its calls and the number that was answered to it. Only the last call may have failed, and then the outcome is that failure. A record that has no statement has changed nothing.
-/

namespace ObjectStore

/-- The failure of a call that was made for the record at a position. -/
def Exchange.failure? (index : Nat) (exchange : Exchange) : Option Error :=
  match exchange.answer with
  | .ok _ => none
  | .error e => some (e.toError exchange.call.statement (some index))

theorem StoreError.kind_toError (e : StoreError) (statement : String) (record : Option Nat) :
    (e.toError statement record).kind ≠ .compile ∧ (e.toError statement record).kind ≠ .lookup := by
  cases e <;> simp [StoreError.toError, Error.kind]

namespace Dml

/-! ### A record's calls and its outcome -/

/-- The outcome of the record at a position tells the calls that were made for it. -/
structure Tells (deadline : Deadline) (className : String) (intent : Intent) (record : Record) (index : Nat)
    (calls : List Exchange) (outcome : Outcome) : Prop where
  /-- Nothing was asked, or one statement was run, or, in an upsert alone, a row with the record's key was asked for and then perhaps one statement was run. -/
  asked : calls = [] ∨
    intent.operation ≠ .upsert ∧ (∃ sql answer, calls = [⟨.execute deadline sql, answer⟩]) ∨
    intent.operation = .upsert ∧ ∃ lookup answer,
      lookupStatement className record (intent.upsertKey.getD idField) index = .ok lookup ∧
      (calls = [⟨.query deadline lookup.render, answer⟩] ∨
        ∃ sql changed, calls = [⟨.query deadline lookup.render, answer⟩, ⟨.execute deadline sql, changed⟩])
  /-- What is reported as applied is the last call: a statement with the number of rows that it changed, or the question of an upsert that had a row to update and nothing to write into it. -/
  applied : ∀ applied, outcome = .ok applied → ∃ last, calls.getLast? = some last ∧
    (last = ⟨.execute deadline applied.statement, .ok applied.rows⟩ ∨
      intent.operation = .upsert ∧ applied.rows = 0 ∧
        upsertStatement? className record (intent.upsertKey.getD idField) index = .ok none ∧
        ∃ row rows, last = ⟨.query deadline applied.statement, .ok (row :: rows)⟩)
  /-- An upsert is reported as an insertion exactly if the question was answered with no row. -/
  operation : ∀ applied, outcome = .ok applied →
    if intent.operation = .upsert then
      ∃ lookup rows, calls.head? = some ⟨.query deadline lookup, .ok rows⟩ ∧
        applied.operation = if rows = [] then .insert else .update
    else applied.operation = intent.operation
  /-- Every call but the last was answered. -/
  answered : ∀ exchange ∈ calls.dropLast, exchange.failure? index = none
  /-- If the last call failed, its failure is what is reported. -/
  failed : ∀ e, calls.getLast?.bind (Exchange.failure? index) = some e → outcome = .error e
  /-- No statement was run for a record for which there was none. -/
  unsaid : ∀ e, outcome = .error e → e.kind = .compile ∨ e.kind = .lookup →
    ∀ exchange ∈ calls, ∀ sql, exchange.call ≠ .execute deadline sql

section Records

variable {deadline : Deadline} {className : String} {record : Record} {index : Nat} {intent : Intent}
  {exchanges : List Exchange} {outcome : Outcome}

theorem tells_nothing (e : Error) : Tells deadline className intent record index [] (.error e) := by
  constructor <;> simp

theorem Runs.tells {statement : Except Error Sql.Statement}
    (h : Runs deadline index intent.operation statement exchanges outcome) (hupsert : intent.operation ≠ .upsert) :
    Tells deadline className intent record index exchanges outcome := by
  cases h with
  | uncompiled e => exact tells_nothing e
  | applied s rows => constructor <;> simp [Exchange.failure?, hupsert]
  | failed s e => constructor <;> simp [Exchange.failure?, StoreCall.statement, e.kind_toError, hupsert]

/-- A statement that is run after the question of an upsert was answered. -/
theorem Runs.tells_upsert {operation : Operation} {statement : Except Error Sql.Statement} {lookup : Sql.Statement}
    {rows : List Row} (h : Runs deadline index operation statement exchanges outcome)
    (hupsert : intent.operation = .upsert)
    (hlookup : lookupStatement className record (intent.upsertKey.getD idField) index = .ok lookup)
    (hoperation : operation = if rows = [] then .insert else .update) :
    Tells deadline className intent record index (⟨.query deadline lookup.render, .ok rows⟩ :: exchanges) outcome := by
  cases h with
  | uncompiled e => constructor <;> simp [Exchange.failure?, hupsert, hlookup]
  | applied s changed => constructor <;> simp [Exchange.failure?, hupsert, hlookup, hoperation]
  | failed s e => constructor <;> simp [Exchange.failure?, StoreCall.statement, e.kind_toError, hupsert, hlookup]

theorem Upserts.tells (h : Upserts deadline className record index (intent.upsertKey.getD idField) exchanges outcome)
    (hupsert : intent.operation = .upsert) : Tells deadline className intent record index exchanges outcome := by
  cases h with
  | unasked h => exact tells_nothing _
  | unanswered h e => constructor <;> simp [Exchange.failure?, StoreCall.statement, hupsert, h]
  | absent h hrun => exact hrun.tells_upsert hupsert h (by simp)
  | unwritable h row rows hupdate => constructor <;> simp [Exchange.failure?, hupsert, h]
  | settled h row rows hupdate => constructor <;> simp [Exchange.failure?, hupsert, h, hupdate]
  | present h row rows hupdate hrun => exact hrun.tells_upsert hupsert h (by simp)

theorem Handles.tells (h : Handles deadline className record index intent exchanges outcome) :
    Tells deadline className intent record index exchanges outcome := by
  cases h with
  | foreign h => exact tells_nothing _
  | insert hclass h hrun => exact Runs.tells (h ▸ hrun) (by simp [h])
  | update hclass h hrun => exact Runs.tells (h ▸ hrun) (by simp [h])
  | delete hclass h hrun => exact Runs.tells (h ▸ hrun) (by simp [h])
  | upsert hclass h hupsert => exact hupsert.tells h

end Records

/-! ### The pieces of a batch -/

section Batches

variable {σ : Type} (store : Store σ) (deadline : Deadline) (className : String) (intent : Intent)

/-- The world that the first `count` of the records leave. -/
def leftBy (count : Nat) (world : World σ) : World σ :=
  (applyEach store deadline className intent 0 (intent.records.take count) world).2

end Batches

/-- The calls of a batch record by record fall into pieces, one for each record. The piece of a record is what applying it asks of the store that the records before it have left, its outcome is what this comes to, and the outcome tells the piece. A batch that fails as a whole has asked nothing. -/
theorem outcomes_tell_calls {σ : Type} (store : Store σ) (deadline : Deadline) (className : String) (intent : Intent)
    (world : World σ) :
    ∃ pieces : List (List Exchange),
      Procedure.Makes (fun _ store => executeFor store .perRecord deadline className intent) store world
        pieces.flatten ∧
      match (executeFor store .perRecord deadline className intent world).1 with
      | .error _ => pieces = []
      | .ok report =>
        pieces.length = intent.records.length ∧ report.outcomes.length = intent.records.length ∧
        ∀ index record piece outcome, intent.records[index]? = some record → pieces[index]? = some piece →
          report.outcomes[index]? = some outcome →
          let left := leftBy store deadline className intent index world
          Procedure.Makes (fun _ store => applyRecord store deadline className intent record index) store left piece ∧
            outcome = (applyRecord store deadline className intent record index left).1 ∧
            Tells deadline className intent record index piece outcome := by
  cases hnames : checkNames className intent with
  | error e =>
    have hbatch := fun (τ : Type) (store : Store τ) =>
      executeFor_of_misnamed store deadline className intent hnames .perRecord
    refine ⟨[], .congr (.pure _) hbatch, ?_⟩
    rw [hbatch]
  | ok _ =>
    have hbatch := fun (τ : Type) (store : Store τ) => executeFor_perRecord store deadline className intent hnames
    obtain ⟨_, hmakes, pieces, rfl, hpieces, houtcomes, hrecords⟩ :=
      applyEach_pieces store deadline className intent 0 intent.records world
    refine ⟨pieces, (hmakes.map _).congr hbatch, ?_⟩
    rw [hbatch]
    refine ⟨hpieces, houtcomes, fun index record piece outcome hrecord hpiece houtcome => ?_⟩
    have hpart := hrecords index record piece outcome hrecord hpiece houtcome
    rw [Nat.zero_add] at hpart
    exact ⟨hpart.1, hpart.2.1, hpart.2.2.tells⟩

end Dml

end ObjectStore
