import ObjectStore.Dml.Executor
import ObjectStore.Proofs.Results
import ObjectStore.Proofs.Store.Recording

/-!
# The exchanges for a record

What is asked of a store for one record, and the outcome that the answers lead to, are stated without any store. A record of another class and one without a statement are settled before anything is asked. An upsert asks for a row with the record's key first, and what it does next depends on the answer.

With every store, applying a record makes such exchanges.
-/

namespace ObjectStore.Dml

section Relations

variable (deadline : Deadline) (className : String) (record : Record) (index : Nat)

/-- A statement is run, if there is one. -/
inductive Runs (operation : Operation) : Except Error Sql.Statement → List Exchange → Outcome → Prop where
  | uncompiled (e : Error) : Runs operation (.error e) [] (.error e)
  | applied (statement : Sql.Statement) (rows : Nat) :
      Runs operation (.ok statement) [⟨.execute deadline statement.render, .ok rows⟩]
        (.ok ⟨operation, statement.render, rows⟩)
  | failed (statement : Sql.Statement) (e : StoreError) :
      Runs operation (.ok statement) [⟨.execute deadline statement.render, .error e⟩]
        (.error (e.toError statement.render (some index)))

/-- A row with the record's value in the key field is asked for, and the record is inserted if there is none. -/
inductive Upserts (key : String) : List Exchange → Outcome → Prop where
  | unasked {e : Error} (h : lookupStatement className record key index = .error e) : Upserts key [] (.error e)
  | unanswered {lookup : Sql.Statement} (h : lookupStatement className record key index = .ok lookup) (e : StoreError) :
      Upserts key [⟨.query deadline lookup.render, .error e⟩] (.error (e.toError lookup.render (some index)))
  | absent {lookup : Sql.Statement} {exchanges : List Exchange} {outcome : Outcome}
      (h : lookupStatement className record key index = .ok lookup)
      (hrun : Runs deadline index .insert ((insertStatement className record).mapError .compile) exchanges outcome) :
      Upserts key (⟨.query deadline lookup.render, .ok []⟩ :: exchanges) outcome
  | unwritable {lookup : Sql.Statement} {e : Error} (h : lookupStatement className record key index = .ok lookup)
      (row : Row) (rows : List Row) (hupdate : upsertStatement? className record key index = .error e) :
      Upserts key [⟨.query deadline lookup.render, .ok (row :: rows)⟩] (.error e)
  | settled {lookup : Sql.Statement} (h : lookupStatement className record key index = .ok lookup)
      (row : Row) (rows : List Row) (hupdate : upsertStatement? className record key index = .ok none) :
      Upserts key [⟨.query deadline lookup.render, .ok (row :: rows)⟩] (.ok ⟨.update, lookup.render, 0⟩)
  | present {lookup statement : Sql.Statement} {exchanges : List Exchange} {outcome : Outcome}
      (h : lookupStatement className record key index = .ok lookup) (row : Row) (rows : List Row)
      (hupdate : upsertStatement? className record key index = .ok (some statement))
      (hrun : Runs deadline index .update (.ok statement) exchanges outcome) :
      Upserts key (⟨.query deadline lookup.render, .ok (row :: rows)⟩ :: exchanges) outcome

/-- The operation of an intent is applied to a record. -/
inductive Handles (intent : Intent) : List Exchange → Outcome → Prop where
  | foreign (h : record.className ≠ className) :
      Handles intent [] (.error (.compile (.classMismatch className record.className)))
  | insert {exchanges : List Exchange} {outcome : Outcome} (hclass : record.className = className)
      (h : intent.operation = .insert)
      (hrun : Runs deadline index .insert ((insertStatement className record).mapError .compile) exchanges outcome) :
      Handles intent exchanges outcome
  | update {exchanges : List Exchange} {outcome : Outcome} (hclass : record.className = className)
      (h : intent.operation = .update)
      (hrun : Runs deadline index .update (updateStatement className record index) exchanges outcome) :
      Handles intent exchanges outcome
  | delete {exchanges : List Exchange} {outcome : Outcome} (hclass : record.className = className)
      (h : intent.operation = .delete)
      (hrun : Runs deadline index .delete (deleteStatement className record index) exchanges outcome) :
      Handles intent exchanges outcome
  | upsert {exchanges : List Exchange} {outcome : Outcome} (hclass : record.className = className)
      (h : intent.operation = .upsert)
      (hupsert : Upserts deadline className record index (intent.upsertKey.getD idField) exchanges outcome) :
      Handles intent exchanges outcome

end Relations

/-! ### What is done makes these exchanges -/

section Performs

open Procedure (Performs)

variable {σ : Type} (store : Store σ) (deadline : Deadline) (className : String) (record : Record) (index : Nat)
  (world : World σ)

theorem runCompiled_performs (operation : Operation) (statement : Except Error Sql.Statement) :
    Performs (fun _ store => runCompiled store deadline operation statement index) store world
      (Runs deadline index operation statement) := by
  cases statement with
  | error e => exact .pure (fun _ _ _ => rfl) (.uncompiled e)
  | ok statement =>
    refine .call (.execute deadline statement.render) fun answer next _ => ?_
    cases answer with
    | error e =>
      refine ⟨_, fun τ store world next h => ?_, .pure (fun _ _ _ => rfl) (.failed statement e)⟩
      change store.execute deadline statement.render world = _ at h
      rw [runCompiled, run, h]
    | ok rows =>
      refine ⟨_, fun τ store world next h => ?_, .pure (fun _ _ _ => rfl) (.applied statement rows)⟩
      change store.execute deadline statement.render world = _ at h
      rw [runCompiled, run, h]

theorem upsert_performs (key : String) :
    Performs (fun _ store => upsert store deadline className record key index) store world
      (Upserts deadline className record index key) := by
  cases hlookup : lookupStatement className record key index with
  | error e =>
    refine .pure (fun τ store world => ?_) (.unasked hlookup)
    rw [upsert, hlookup]
  | ok lookup =>
    refine .call (.query deadline lookup.render) fun answer next _ => ?_
    -- What is done next depends on the answer, and if there is a row, on the update that is left.
    rcases answer with e | (_ | ⟨row, rows⟩)
    · refine ⟨_, fun τ store world next h => ?_, .pure (fun _ _ _ => rfl) (.unanswered hlookup e)⟩
      change store.query deadline lookup.render world = _ at h
      simp only [upsert, hlookup, h]
    · refine ⟨_, fun τ store world next h => ?_, (runCompiled_performs store deadline index next .insert _).mono
        fun _ _ hrun => .absent hlookup hrun⟩
      change store.query deadline lookup.render world = _ at h
      simp only [upsert, hlookup, h]
    · rcases hupdate : upsertStatement? className record key index with e | (_ | statement)
      · refine ⟨_, fun τ store world next h => ?_, .pure (fun _ _ _ => rfl) (.unwritable hlookup row rows hupdate)⟩
        change store.query deadline lookup.render world = _ at h
        simp only [upsert, hlookup, h, hupdate]
      · refine ⟨_, fun τ store world next h => ?_, .pure (fun _ _ _ => rfl) (.settled hlookup row rows hupdate)⟩
        change store.query deadline lookup.render world = _ at h
        simp only [upsert, hlookup, h, hupdate]
      · refine ⟨_, fun τ store world next h => ?_, (runCompiled_performs store deadline index next .update _).mono
          fun _ _ hrun => .present hlookup row rows hupdate hrun⟩
        change store.query deadline lookup.render world = _ at h
        simp only [upsert, hlookup, h, hupdate, runCompiled]

variable (intent : Intent)

theorem applyRecord_performs :
    Performs (fun _ store => applyRecord store deadline className intent record index) store world
      (Handles deadline className record index intent) := by
  by_cases hclass : record.className ≠ className
  · refine .pure (fun τ store world => ?_) (.foreign hclass)
    rw [applyRecord, if_pos hclass]
  · rw [not_not] at hclass
    unfold applyRecord
    simp only [if_neg (not_not.2 hclass)]
    cases hoperation : intent.operation with
    | insert => exact (runCompiled_performs store deadline index world _ _).mono fun _ _ => .insert hclass hoperation
    | update => exact (runCompiled_performs store deadline index world _ _).mono fun _ _ => .update hclass hoperation
    | delete => exact (runCompiled_performs store deadline index world _ _).mono fun _ _ => .delete hclass hoperation
    | upsert =>
      exact (upsert_performs store deadline className record index world _).mono fun _ _ => .upsert hclass hoperation

end Performs

/-! ### Failures before a statement -/

/-- A failure to come by a statement, which leaves the store alone. -/
def IsEarly (e : Error) : Prop := e.kind = .compile ∨ e.kind = .lookup

def FailsEarly {α : Type} (x : Except Error α) : Prop := ∀ e, x = .error e → IsEarly e

section Early

namespace FailsEarly

variable {α β : Type}

theorem ok (a : α) : FailsEarly (.ok a) := fun _ h => by cases h

theorem error {e : Error} (h : IsEarly e) : FailsEarly (.error e : Except Error α) := fun _ heq => by
  cases heq
  exact h

theorem mapError (x : Except CompileError α) : FailsEarly (x.mapError Error.compile) := by
  cases x with
  | error e => exact .error (.inl rfl)
  | ok a => exact .ok a

theorem bind {x : Except Error α} {f : α → Except Error β} (hx : FailsEarly x) (hf : ∀ a, FailsEarly (f a)) :
    FailsEarly (x >>= f) := by
  cases x with
  | error e => exact .error (hx e rfl)
  | ok a => exact hf a

end FailsEarly

variable (className : String) (record : Record) (key : String) (index : Nat)

theorem requiredKey_failsEarly : FailsEarly (requiredKey className record key index) := by
  have hmissing : IsEarly (.lookup (.missingKey className key index)) := .inr rfl
  rw [requiredKey]
  split
  · split
    · exact .error hmissing
    · exact .ok _
  · exact .error hmissing

theorem updateStatement_failsEarly : FailsEarly (updateStatement className record index) := by
  refine .bind (.mapError _) fun table => .bind (requiredKey_failsEarly _ _ _ _) fun id =>
    .bind (.mapError _) fun assigned => ?_
  dsimp only
  split
  · exact .error (.inl rfl)
  · exact .bind (.mapError _) fun literal => .ok _

theorem deleteStatement_failsEarly : FailsEarly (deleteStatement className record index) :=
  .bind (.mapError _) fun _ => .bind (requiredKey_failsEarly _ _ _ _) fun _ => .bind (.mapError _) fun _ => .ok _

theorem lookupStatement_failsEarly : FailsEarly (lookupStatement className record key index) :=
  .bind (.mapError _) fun _ => .bind (requiredKey_failsEarly _ _ _ _) fun _ => .bind (.mapError _) fun _ =>
    .bind (.mapError _) fun _ => .ok _

theorem upsertStatement_failsEarly : FailsEarly (upsertStatement? className record key index) := by
  refine .bind (.mapError _) fun table => .bind (requiredKey_failsEarly _ _ _ _) fun value =>
    .bind (.mapError _) fun assigned => ?_
  split
  · exact .ok _
  · exact .bind (.mapError _) fun column => .bind (.mapError _) fun literal => .ok _

end Early

/-! ### Failures are the record's own -/

section Failures

/-- The failure of a record itself and not of the batch it is in. -/
def IsOwn (e : Error) : Prop := ∀ index, e ≠ .execution (.rolledBack index)

theorem IsEarly.isOwn {e : Error} (h : IsEarly e) : IsOwn e := fun index heq => by
  rw [heq] at h
  simp [IsEarly, Error.kind] at h

def FailsAlone {α : Type} (x : Except Error α) : Prop := ∀ e, x = .error e → IsOwn e

namespace FailsAlone

variable {α : Type}

theorem ok (a : α) : FailsAlone (.ok a) := fun _ h => by cases h

theorem error {e : Error} (h : IsOwn e) : FailsAlone (.error e : Except Error α) := fun _ heq => by
  cases heq
  exact h

end FailsAlone

theorem FailsEarly.failsAlone {α : Type} {x : Except Error α} (h : FailsEarly x) : FailsAlone x :=
  fun e he => (h e he).isOwn

variable {className : String} {record : Record} {key : String} {index : Nat} {deadline : Deadline}
  {exchanges : List Exchange} {outcome : Outcome}

theorem isOwn_toError (e : StoreError) (statement : String) (index : Option Nat) : IsOwn (e.toError statement index) := by
  cases e with
  | rejected reason => exact fun _ h => by cases h
  | timeout t => exact fun _ h => by cases h

theorem Runs.failsAlone {operation : Operation} {statement : Except Error Sql.Statement} (hstatement : FailsAlone statement)
    (h : Runs deadline index operation statement exchanges outcome) : FailsAlone outcome := by
  cases h with
  | uncompiled e => exact .error (hstatement e rfl)
  | applied statement rows => exact .ok _
  | failed statement e => exact .error (isOwn_toError e _ _)

theorem Upserts.failsAlone (h : Upserts deadline className record index key exchanges outcome) : FailsAlone outcome := by
  cases h with
  | unasked h => exact .error (lookupStatement_failsEarly _ _ _ _ _ h).isOwn
  | unanswered h e => exact .error (isOwn_toError e _ _)
  | absent h hrun => exact hrun.failsAlone (FailsEarly.mapError _).failsAlone
  | unwritable h row rows hupdate => exact .error (upsertStatement_failsEarly _ _ _ _ _ hupdate).isOwn
  | settled h row rows hupdate => exact .ok _
  | present h row rows hupdate hrun => exact hrun.failsAlone (.ok _)

/-- What becomes of a record never tells of a batch that was rolled back. -/
theorem Handles.failsAlone {intent : Intent} (h : Handles deadline className record index intent exchanges outcome) :
    FailsAlone outcome := by
  cases h with
  | foreign h => exact .error fun _ h => by cases h
  | insert hclass h hrun => exact hrun.failsAlone (FailsEarly.mapError _).failsAlone
  | update hclass h hrun => exact hrun.failsAlone (updateStatement_failsEarly _ _ _).failsAlone
  | delete hclass h hrun => exact hrun.failsAlone (deleteStatement_failsEarly _ _ _).failsAlone
  | upsert hclass h hupsert => exact hupsert.failsAlone

end Failures

end ObjectStore.Dml
