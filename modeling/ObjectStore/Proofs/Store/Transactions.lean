import ObjectStore.Sql.Reader
import ObjectStore.Store.Engine

/-!
# Transactions on an engine

Of an engine nothing is assumed but what its transactions promise. One that was opened keeps the tables of its start, a commit that succeeds closes it and keeps the tables as they have become, and a rollback closes it and restores those of its start. A statement that fails changes nothing, or the engine rolls the transaction back by itself, as some do when they are interrupted.

A call of the store either does the work of the engine or is given up before. So a transaction that was opened stays pending until it is committed or rolled back, and a commit that fails is as good as a rollback.
-/

namespace ObjectStore

/-- Whether a statement changes the rows of a table. -/
def Sql.Statement.changesRows : Sql.Statement → Bool
  | .insert _ _ _ _ => true
  | .insertDefaults _ => true
  | .update _ _ _ => true
  | .delete _ _ => true
  | _ => false

/-- Whether a text is a statement that changes the rows of a table. -/
def IsChange (sql : String) : Prop := ∃ s, Sql.Statement.read? sql = some s ∧ s.changesRows = true

/-- Whether a text is a selection. -/
def IsQuestion (sql : String) : Prop := ∃ s, Sql.Statement.read? sql = some (.select s)

variable {δ τ α : Type}

/-- What is seen of the state of an engine, and what the tables become by the statement of a text. -/
structure Journal (δ τ : Type) where
  tables : δ → τ
  /-- The tables at the start of the open transaction. -/
  saved : δ → Option τ
  effect : String → τ → τ

namespace Journal

variable (journal : Journal δ τ)

def Unchanged (world after : World δ) : Prop :=
  journal.tables after.state = journal.tables world.state ∧ journal.saved after.state = journal.saved world.state

/-- No transaction is open, and the tables are the given ones. -/
def Closed (tables : τ) (world : World δ) : Prop :=
  journal.tables world.state = tables ∧ journal.saved world.state = none

/-- A transaction is open that started with the tables `before`, or the engine has rolled it back. -/
def Pending (before : τ) (world : World δ) : Prop :=
  journal.saved world.state = some before ∨ journal.Closed before world

/-- Work in a transaction, which changes the tables by the effect of a text or fails. -/
structure Within (sql : String) (work : Work δ α) : Prop where
  succeeds : ∀ {world after before a}, journal.saved world.state = some before → work world = (.ok a, after) →
    journal.tables after.state = journal.effect sql (journal.tables world.state) ∧ journal.saved after.state = some before
  fails : ∀ {world after before failure}, journal.saved world.state = some before → work world = (.error failure, after) →
    journal.Unchanged world after ∨ journal.Closed before after

end Journal

/-- The engine has transactions. -/
structure Engine.Transactional (engine : Engine δ) (journal : Journal δ τ) : Prop where
  opens : ∀ {world after}, journal.saved world.state = none → engine.batch "BEGIN" world = (.ok (), after) →
    journal.tables after.state = journal.tables world.state ∧
      journal.saved after.state = some (journal.tables world.state)
  opens_fails : ∀ {world after failure}, journal.saved world.state = none →
    engine.batch "BEGIN" world = (.error failure, after) → journal.Unchanged world after
  commits : ∀ {world after before}, journal.saved world.state = some before →
    engine.batch "COMMIT" world = (.ok (), after) → journal.Closed (journal.tables world.state) after
  commits_fails : ∀ {world after before failure}, journal.saved world.state = some before →
    engine.batch "COMMIT" world = (.error failure, after) → journal.Unchanged world after ∨ journal.Closed before after
  restores : ∀ {world before}, journal.saved world.state = some before →
    ∃ after, engine.batch "ROLLBACK" world = (.ok (), after) ∧ journal.Closed before after
  restores_nothing : ∀ {world}, journal.saved world.state = none →
    journal.Unchanged world (engine.batch "ROLLBACK" world).2
  changes : ∀ {sql}, IsChange sql → journal.Within sql (engine.execute sql)
  asks : ∀ {sql}, IsQuestion sql → journal.Within sql (engine.query sql)
  asks_effect : ∀ {sql}, IsQuestion sql → ∀ tables, journal.effect sql tables = tables

/-! ### Calls of the store -/

namespace Engine

variable {engine : Engine δ} {journal : Journal δ τ} {deadline : Option Deadline} {statement : String} {work : Work δ α}
  {world after : World δ}

theorem guarded_eq_ok {a : α} (h : guarded deadline statement work world = (.ok a, after)) :
    work world = (.ok a, after) := by
  rw [guarded] at h
  split at h
  · cases h
  · split at h
    · next hwork =>
      cases h
      exact hwork
    · cases h

/-- A call that fails was not started, or the work failed. -/
theorem guarded_eq_error {e : StoreError} (h : guarded deadline statement work world = (.error e, after)) :
    after = world ∨ ∃ failure, work world = (.error failure, after) := by
  rw [guarded] at h
  split at h
  · cases h
    exact .inl rfl
  · split at h
    · cases h
    · next failure _ hwork =>
      cases h
      exact .inr ⟨failure, hwork⟩

variable {before : τ}

theorem pending_of_unchanged (hopen : journal.saved world.state = some before)
    (h : journal.Unchanged world after ∨ journal.Closed before after) : journal.Pending before after :=
  h.imp_left fun hsame => hsame.2.trans hopen

theorem pending_of_error {sql : String} {e : StoreError} (hwork : journal.Within sql work)
    (hopen : journal.saved world.state = some before) (h : guarded deadline statement work world = (.error e, after)) :
    journal.Pending before after := by
  rcases guarded_eq_error h with rfl | ⟨failure, hfailure⟩
  · exact .inl hopen
  · exact pending_of_unchanged hopen (hwork.fails hopen hfailure)

variable (hengine : engine.Transactional journal)

include hengine

theorem rollBack_closed (h : journal.Pending before world) : journal.Closed before (engine.rollBack world).2 := by
  have hwork : (engine.rollBack world).2 = (engine.batch "ROLLBACK" world).2 := by
    rw [rollBack, guarded]
    dsimp only [check]
    rcases engine.batch "ROLLBACK" world with ⟨failure | _, after⟩ <;> rfl
  rw [hwork]
  rcases h with hopen | hclosed
  · obtain ⟨after, hafter, hrestored⟩ := hengine.restores hopen
    rw [hafter]
    exact hrestored
  · obtain ⟨htables, hsaved⟩ := hengine.restores_nothing hclosed.2
    exact ⟨htables.trans hclosed.1, hsaved.trans hclosed.2⟩

theorem commit_closed {limit : Deadline} (hopen : journal.saved world.state = some before)
    (h : engine.commitOrRollBack limit world = (.ok (), after)) : journal.Closed (journal.tables world.state) after := by
  rw [commitOrRollBack] at h
  split at h
  · next closed hcommit =>
    cases h
    exact hengine.commits hopen (guarded_eq_ok hcommit)
  · cases h

/-- A commit that fails, be it refused or given up, restores the tables. -/
theorem failed_commit_closed {limit : Deadline} {e : StoreError} (hopen : journal.saved world.state = some before)
    (h : engine.commitOrRollBack limit world = (.error e, after)) : journal.Closed before after := by
  rw [commitOrRollBack] at h
  split at h
  · cases h
  · next closed hcommit =>
    cases h
    apply rollBack_closed hengine
    rcases guarded_eq_error hcommit with rfl | ⟨failure, hfailure⟩
    · exact .inl hopen
    · exact pending_of_unchanged hopen (hengine.commits_fails hopen hfailure)

end Engine

end ObjectStore
