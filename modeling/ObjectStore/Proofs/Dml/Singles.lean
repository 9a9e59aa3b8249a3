import ObjectStore.Proofs.Dml.Batches
import ObjectStore.Proofs.Dml.Isolation
import ObjectStore.Proofs.Tables.Transactions

/-!
# Batches of one record

A batch of one record is successful exactly if the record is applied, in a transaction that is opened before it and committed after it if the mode asks for one. On the tables, the opening and the commit change neither the rows nor the clock, and the transaction is closed in the end, so such a batch is what the record alone does to the tables.
-/

namespace ObjectStore.Dml

section Batches

variable {σ : Type} {store : Store σ} {mode : Mode} {deadline : Deadline} {className : String} {intent : Intent}
  {record : Record} {world start done after : World σ} {applied : Applied}

theorem run_eq_ok_iff {operation : Operation} {s : Sql.Statement} {index : Nat} :
    run store deadline operation s index world = (.ok applied, after) ↔
      ∃ rows, store.execute deadline s.render world = (.ok rows, after) ∧ applied = ⟨operation, s.render, rows⟩ := by
  rw [run]
  rcases store.execute deadline s.render world with ⟨e | rows, next⟩
  · refine ⟨fun h => ?_, fun h => ?_⟩
    · cases h
    · obtain ⟨rows, h, -⟩ := h
      cases h
  · constructor
    · intro h
      cases h
      exact ⟨rows, rfl, rfl⟩
    · rintro ⟨found, h, rfl⟩
      cases h
      rfl

/-- What is done around the records of a batch: nothing if they stand alone, and otherwise a transaction is opened and committed. -/
def Encloses (store : Store σ) (mode : Mode) (deadline : Deadline) (world start done after : World σ) : Prop :=
  match mode with
  | .perRecord => start = world ∧ after = done
  | .atomic => store.openTransaction deadline world = (.ok (), start) ∧ store.commit deadline done = (.ok (), after)

theorem executeFor_of_enclosed (hrecords : intent.records = [record]) (hnames : checkNames className intent = .ok ())
    (hencloses : Encloses store mode deadline world start done after)
    (happlied : applyRecord store deadline className intent record 0 start = (.ok applied, done)) :
    executeFor store mode deadline className intent world = (.ok ⟨[.ok applied]⟩, after) := by
  cases mode with
  | perRecord =>
    obtain ⟨rfl, rfl⟩ := hencloses
    rw [executeFor_perRecord store deadline className intent hnames, hrecords]
    dsimp only [applyEach]
    rw [happlied]
    rfl
  | atomic =>
    obtain ⟨hopen, hcommit⟩ := hencloses
    rw [executeFor, hnames]
    dsimp only
    rw [applyTogether_of_open store deadline className intent hopen, hrecords]
    dsimp only [applyWhileOk]
    rw [happlied]
    dsimp only [finish]
    rw [hcommit]
    rfl

theorem enclosed_of_executeFor (hrecords : intent.records = [record]) {report : Report}
    (h : executeFor store mode deadline className intent world = (.ok report, after)) (hsuccess : report.isSuccess = true) :
    checkNames className intent = .ok () ∧ ∃ start done applied, Encloses store mode deadline world start done after ∧
      applyRecord store deadline className intent record 0 start = (.ok applied, done) := by
  cases hnames : checkNames className intent with
  | error e =>
    rw [executeFor_of_misnamed store deadline className intent hnames] at h
    cases h
  | ok _ =>
    refine ⟨rfl, ?_⟩
    cases mode with
    | perRecord =>
      rw [executeFor_perRecord store deadline className intent hnames, hrecords] at h
      dsimp only [applyEach] at h
      rcases hresult : applyRecord store deadline className intent record 0 world with ⟨e | applied, done⟩
      · rw [hresult] at h
        cases h
        cases hsuccess
      · rw [hresult] at h
        cases h
        exact ⟨world, done, applied, ⟨rfl, rfl⟩, hresult⟩
    | atomic =>
      rw [executeFor, hnames] at h
      dsimp only at h
      rcases hopen : store.openTransaction deadline world with ⟨e | ⟨⟩, start⟩
      · rw [applyTogether, Store.inTransaction, hopen] at h
        cases h
      · rw [applyTogether_of_open store deadline className intent hopen, hrecords] at h
        dsimp only [applyWhileOk] at h
        rcases hresult : applyRecord store deadline className intent record 0 start with ⟨e | applied, done⟩
        · rw [hresult] at h
          dsimp only [finish] at h
          rcases hrollback : store.rollback done with ⟨failure | ⟨⟩, last⟩
          · rw [hrollback] at h
            cases h
          · rw [hrollback] at h
            cases h
            cases hsuccess
        · rw [hresult] at h
          dsimp only [finish] at h
          rcases hcommit : store.commit deadline done with ⟨failure | ⟨⟩, last⟩
          · rw [hcommit] at h
            cases h
          · rw [hcommit] at h
            cases h
            exact ⟨start, done, applied, ⟨hopen, hcommit⟩, hresult⟩

end Batches

/-! ### On the tables -/

section Tables

open Tables (Database)

variable {mode : Mode} {deadline : Deadline} {world start done after : World Database}

theorem commit_iff : Tables.store.commit deadline done = (.ok (), after) ↔ deadline.interruption? done.clock = none ∧
    after.clock = done.clock ∧ done.state.saved ≠ none ∧ after.state = { done.state with saved := none } := by
  have hguarded : Tables.store.commit deadline done = (.ok (), after) ↔
      Engine.guarded (some deadline) "COMMIT" (Tables.instant (Tables.runBatch "COMMIT")) done = (.ok (), after) := by
    change Engine.commitOrRollBack Tables.engine deadline done = _ ↔
      Engine.guarded (some deadline) "COMMIT" (Tables.engine.batch "COMMIT") done = _
    rw [Engine.commitOrRollBack]
    rcases Engine.guarded (some deadline) "COMMIT" (Tables.engine.batch "COMMIT") done with ⟨e | ⟨⟩, next⟩
    · refine ⟨fun h => ?_, fun h => ?_⟩
      · cases h
      · cases h
    · rfl
  rw [hguarded, Tables.guarded_instant_iff, Tables.runBatch_commit_iff]

theorem open_iff : Tables.store.openTransaction deadline world = (.ok (), start) ↔
    deadline.interruption? world.clock = none ∧ start.clock = world.clock ∧ world.state.saved = none ∧
      start.state = { world.state with saved := some world.state.tables } := by
  change Engine.guarded (some deadline) "BEGIN" (Tables.instant (Tables.runBatch "BEGIN")) world = _ ↔ _
  rw [Tables.guarded_instant_iff, Tables.runBatch_begin_iff]

theorem Encloses.tables (h : Encloses Tables.store mode deadline world start done after) :
    start.clock = world.clock ∧ start.state.tables = world.state.tables ∧ after.clock = done.clock ∧
      after.state.tables = done.state.tables ∧ (mode = .atomic → after.state.saved = none) := by
  cases mode with
  | perRecord =>
    obtain ⟨rfl, rfl⟩ := h
    exact ⟨rfl, rfl, rfl, rfl, fun h => by cases h⟩
  | atomic =>
    obtain ⟨-, hstart, -, hopened⟩ := open_iff.1 h.1
    obtain ⟨-, hafter, -, hclosed⟩ := commit_iff.1 h.2
    exact ⟨hstart, by rw [hopened], hafter, by rw [hclosed], fun _ => by rw [hclosed]⟩

/-- If there is time and no transaction is open, records that leave the clock and the saved tables alone can be enclosed. -/
theorem exists_encloses (hdeadline : deadline.interruption? world.clock = none)
    (hsaved : mode = .atomic → world.state.saved = none) :
    ∃ start, start.clock = world.clock ∧ start.state.tables = world.state.tables ∧
      ∀ done : World Database, done.clock = start.clock → done.state.saved = start.state.saved →
        ∃ after, Encloses Tables.store mode deadline world start done after := by
  cases mode with
  | perRecord => exact ⟨world, rfl, rfl, fun done _ _ => ⟨done, rfl, rfl⟩⟩
  | atomic =>
    refine ⟨{ world with state := { world.state with saved := some world.state.tables } }, rfl, rfl,
      fun done hclock hkept => ⟨{ done with state := { done.state with saved := none } }, ?_, ?_⟩⟩
    · exact open_iff.2 ⟨hdeadline, rfl, hsaved rfl, rfl⟩
    · refine commit_iff.2 ⟨?_, rfl, ?_, rfl⟩
      · rw [hclock]
        exact hdeadline
      · rw [hkept]
        exact Option.some_ne_none _

end Tables

end ObjectStore.Dml
