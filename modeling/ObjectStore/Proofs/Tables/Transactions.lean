import ObjectStore.Proofs.Sql.Boundaries
import ObjectStore.Proofs.Store.Transactions
import ObjectStore.Tables.Store

/-!
# Transactions of the tables

A text that is a statement is run as that statement and no other. The tables have transactions: a transaction keeps the tables of its start next to the current ones, and what a change makes of the tables depends on nothing else.
-/

namespace ObjectStore.Tables

/-! ### Texts of one statement -/

theorem partsFrom_of_not_mem {place : Nat} {read tokens : List Sql.Placed}
    (h : .symbol ";" ∉ tokens.map (·.token)) : partsFrom place read tokens = [⟨place, read.reverse ++ tokens⟩] := by
  induction tokens generalizing read with
  | nil => rw [partsFrom, List.append_nil]
  | cons placed rest ih =>
    rw [List.map_cons, List.mem_cons, not_or] at h
    rw [partsFrom, if_neg fun heq => h.1 (eq_of_beq heq).symm, ih h.2, List.reverse_cons, List.append_assoc]
    rfl

theorem parts?_of_statement {sql : String} {tokens : List Sql.Placed} {s : Sql.Statement}
    (htokens : Sql.tokens? sql = some tokens) (hs : Sql.Statement.ofTokens? (tokens.map (·.token)) = some s) :
    parts? sql = some [⟨0, tokens⟩] := by
  rw [parts?, htokens, Option.map_some, partsFrom_of_not_mem (Sql.Statement.not_mem_of_ofTokens? hs)]
  cases tokens with
  | nil => cases hs
  | cons placed rest => rfl

theorem runFirst_eq {sql : String} {s : Sql.Statement} (h : Sql.Statement.read? sql = some s) :
    ∃ tokens, ∀ database : Database, runFirst sql database =
      Prod.map (Except.mapError fun refusal => .refused (refusal.message sql ⟨0, tokens⟩)) id (database.run tokens s) := by
  obtain ⟨tokens, htokens, hs⟩ := Option.bind_eq_some_iff.1 h
  refine ⟨tokens, fun database => ?_⟩
  rw [runFirst, parts?_of_statement htokens hs]
  dsimp only
  rw [runPart, hs]
  dsimp only
  rcases database.run tokens s with ⟨refusal | answer, after⟩ <;> rfl

/-- A statement changes what it changes when it is run, and may answer no rows. -/
theorem changedRows_eq_ok_iff {sql : String} {s : Sql.Statement} (h : Sql.Statement.read? sql = some s) :
    ∃ tokens, ∀ {database after : Database} {count : Nat}, changedRows sql database = (.ok count, after) ↔
      ∃ answer, database.run tokens s = (.ok answer, after) ∧ answer.rows = [] ∧ after.changes = count := by
  obtain ⟨tokens, hrun⟩ := runFirst_eq h
  refine ⟨tokens, fun {database after count} => ?_⟩
  rw [changedRows, hrun]
  rcases database.run tokens s with ⟨refusal | answer, done⟩
  · refine ⟨fun h => ?_, fun h => ?_⟩
    · cases h
    · obtain ⟨answer, h, -⟩ := h
      cases h
  · dsimp only [Prod.map, Except.mapError, id]
    cases hrows : answer.rows with
    | nil =>
      constructor
      · intro h
        cases h
        exact ⟨answer, rfl, hrows, rfl⟩
      · rintro ⟨found, h, -, rfl⟩
        cases h
        rfl
    | cons row rows =>
      refine ⟨fun h => ?_, fun h => ?_⟩
      · cases h
      · obtain ⟨found, h, hfound, -⟩ := h
        cases h
        rw [hrows] at hfound
        cases hfound

/-- Work on the tables succeeds if there is time for it and it can be done, and no time passes. -/
theorem guarded_instant_iff {α : Type} {body : Database → Except EngineFailure α × Database} {deadline : Deadline}
    {sql : String} {a : α} {world after : World Database} :
    Engine.guarded (some deadline) sql (instant body) world = (.ok a, after) ↔
      deadline.interruption? world.clock = none ∧ after.clock = world.clock ∧ body world.state = (.ok a, after.state) := by
  rw [Engine.guarded, Engine.check, Deadline.check]
  cases deadline.interruption? world.clock with
  | some reason =>
    refine ⟨fun h => ?_, fun h => ?_⟩
    · cases h
    · cases h.1
  | none =>
    rw [instant]
    rcases body world.state with ⟨failure | answer, state⟩
    · refine ⟨fun h => ?_, fun h => ?_⟩
      · cases h
      · cases h.2.2
    · constructor
      · intro h
        cases h
        exact ⟨rfl, rfl, rfl⟩
      · rintro ⟨-, hclock, hstate⟩
        obtain ⟨clock, state⟩ := after
        cases hclock
        cases hstate
        rfl

theorem store_query_iff {deadline : Deadline} {sql : String} {rows : List Row} {world after : World Database} :
    store.query deadline sql world = (.ok rows, after) ↔ deadline.interruption? world.clock = none ∧
      after.clock = world.clock ∧ queryRows sql world.state = (.ok rows, after.state) := by
  change Engine.guarded (some deadline) sql (instant (queryRows sql)) world = _ ↔ _
  exact guarded_instant_iff

theorem store_execute_iff {deadline : Deadline} {sql : String} {count : Nat} {world after : World Database} :
    store.execute deadline sql world = (.ok count, after) ↔ deadline.interruption? world.clock = none ∧
      after.clock = world.clock ∧ changedRows sql world.state = (.ok count, after.state) := by
  change Engine.guarded (some deadline) sql (instant (changedRows sql)) world = _ ↔ _
  exact guarded_instant_iff

theorem store_query_eq {deadline : Deadline} {sql : String} {select : Sql.Select} {rows : List Row}
    {world : World Database} (hdeadline : deadline.interruption? world.clock = none)
    (hread : Sql.Statement.read? sql = some (.select select))
    (hrows : ∀ tokens, runSelect world.state tokens select = .ok rows) :
    store.query deadline sql world = (.ok rows, world) := by
  obtain ⟨tokens, hrun⟩ := runFirst_eq hread
  refine store_query_iff.2 ⟨hdeadline, rfl, ?_⟩
  rw [queryRows, hrun, Database.run, hrows]
  rfl

/-! ### Changes -/

/-- Work that is decided by the tables. It replaces them and keeps the saved ones, or it fails and keeps both. -/
def ChangesTables (tables : List Table) (work : Database → Except Refusal Answer × Database) : Prop :=
  (∃ after count, ∀ saved changes, work ⟨tables, saved, changes⟩ =
    (.ok ⟨[], ⟨after, saved, count⟩⟩, ⟨after, saved, count⟩)) ∨
  ∃ refusal, ∀ saved changes, ∃ count, work ⟨tables, saved, changes⟩ = (.error refusal, ⟨tables, saved, count⟩)

theorem changesTables_checked {tables : List Table} {check : Database → Except Refusal Table}
    (hcheck : ∀ saved changes, check ⟨tables, saved, changes⟩ = check ⟨tables, none, 0⟩)
    (result : Table → Except Refusal (List Row × Nat)) :
    ChangesTables tables fun database => match check database with
      | .error e => (.error e, database)
      | .ok table => changed database table (result table) := by
  cases hfound : check ⟨tables, none, 0⟩ with
  | error refusal =>
    refine .inr ⟨refusal, fun saved changes => ⟨changes, ?_⟩⟩
    simp only [hcheck, hfound]
  | ok table =>
    cases hresult : result table with
    | error refusal =>
      refine .inr ⟨refusal, fun saved changes => ⟨0, ?_⟩⟩
      simp only [hcheck, hfound, hresult, changed]
    | ok rows =>
      refine .inl ⟨(Database.withRows ⟨tables, none, 0⟩ table.name rows.1).tables, rows.2, fun saved changes => ?_⟩
      simp only [hcheck, hfound, hresult, changed, Database.withRows]

theorem changesTables_run {s : Sql.Statement} (hs : s.changesRows = true) (tokens : List Sql.Placed)
    (tables : List Table) : ChangesTables tables (Database.run · tokens s) := by
  cases s with
  | insert skipExisting written columns values => exact changesTables_checked (fun _ _ => rfl) _
  | insertDefaults written => exact changesTables_checked (fun _ _ => rfl) _
  | update written assignments filter => exact changesTables_checked (fun _ _ => rfl) _
  | delete written filter => exact changesTables_checked (fun _ _ => rfl) _
  | select s => cases hs
  | createTable skipExisting name columns => cases hs
  | openTransaction => cases hs
  | commit => cases hs
  | rollback => cases hs

/-! ### The transactions of the engine -/

/-- What is seen of the tables. A statement has the same effect in a transaction and without one. -/
def journal : Journal Database (List Table) where
  tables database := database.tables
  saved database := database.saved
  effect sql tables := (changedRows sql ⟨tables, none, 0⟩).2.tables

theorem changedRows_of_change {sql : String} (h : IsChange sql) (tables : List Table) :
    (∀ saved changes, ∃ count, changedRows sql ⟨tables, saved, changes⟩ =
      (.ok count, ⟨journal.effect sql tables, saved, count⟩)) ∨
    ∃ failure, ∀ saved changes, ∃ count, changedRows sql ⟨tables, saved, changes⟩ =
      (.error failure, ⟨tables, saved, count⟩) := by
  obtain ⟨s, hread, hs⟩ := h
  obtain ⟨tokens, hrun⟩ := runFirst_eq hread
  rcases changesTables_run hs tokens tables with ⟨after, count, hafter⟩ | ⟨refusal, hrefusal⟩
  · dsimp only at hafter
    have heq : ∀ saved changes, changedRows sql ⟨tables, saved, changes⟩ = (.ok count, ⟨after, saved, count⟩) := by
      intro saved changes
      rw [changedRows, hrun, hafter]
      rfl
    have heffect : journal.effect sql tables = after := congrArg (·.2.tables) (heq none 0)
    exact .inl fun saved changes => ⟨count, by rw [heq, heffect]⟩
  · refine .inr ⟨.refused (refusal.message sql ⟨0, tokens⟩), fun saved changes => ?_⟩
    obtain ⟨count, hcount⟩ := hrefusal saved changes
    refine ⟨count, ?_⟩
    dsimp only at hcount
    rw [changedRows, hrun, hcount]
    rfl

theorem within_change {sql : String} (h : IsChange sql) : journal.Within sql (engine.execute sql) where
  succeeds := by
    rintro ⟨clock, tables, saved, changes⟩ after before a hopen hwork
    change instant (changedRows sql) _ = _ at hwork
    rw [instant] at hwork
    dsimp only at hwork
    rcases changedRows_of_change h tables with hchange | ⟨failure, hfailure⟩
    · obtain ⟨count, hcount⟩ := hchange saved changes
      rw [hcount] at hwork
      cases hwork
      exact ⟨rfl, hopen⟩
    · obtain ⟨count, hcount⟩ := hfailure saved changes
      rw [hcount] at hwork
      cases hwork
  fails := by
    rintro ⟨clock, tables, saved, changes⟩ after before failure hopen hwork
    change instant (changedRows sql) _ = _ at hwork
    rw [instant] at hwork
    dsimp only at hwork
    rcases changedRows_of_change h tables with hchange | ⟨failure, hfailure⟩
    · obtain ⟨count, hcount⟩ := hchange saved changes
      rw [hcount] at hwork
      cases hwork
    · obtain ⟨count, hcount⟩ := hfailure saved changes
      rw [hcount] at hwork
      cases hwork
      exact .inl ⟨rfl, rfl⟩

theorem runFirst_of_question {sql : String} (h : IsQuestion sql) (database : Database) :
    (runFirst sql database).2 = database := by
  obtain ⟨s, hread⟩ := h
  obtain ⟨tokens, hrun⟩ := runFirst_eq hread
  rw [hrun]
  rfl

theorem changedRows_snd (sql : String) (database : Database) :
    (changedRows sql database).2 = (runFirst sql database).2 := by
  rw [changedRows]
  rcases runFirst sql database with ⟨failure | answer, after⟩
  · rfl
  · dsimp only
    split <;> rfl

theorem effect_of_question {sql : String} (h : IsQuestion sql) (tables : List Table) :
    journal.effect sql tables = tables := by
  change (changedRows sql ⟨tables, none, 0⟩).2.tables = tables
  rw [changedRows_snd, runFirst_of_question h]

theorem within_question {sql : String} (h : IsQuestion sql) : journal.Within sql (engine.query sql) := by
  have hsame : ∀ {world after answer}, engine.query sql world = (answer, after) → after = world := by
    intro world after answer hwork
    have hafter : after = { world with state := (runFirst sql world.state).2 } := (congrArg Prod.snd hwork).symm
    rwa [runFirst_of_question h] at hafter
  refine ⟨fun {world after before rows} hopen hwork => ?_, fun {world after before failure} hopen hwork => ?_⟩
  · rw [hsame hwork, effect_of_question h]
    exact ⟨rfl, hopen⟩
  · rw [hsame hwork]
    exact .inl ⟨rfl, rfl⟩

/-- A transaction is opened only if none is open, and keeps the tables as they are then. -/
theorem runBatch_begin_iff {database after : Database} : runBatch "BEGIN" database = (.ok (), after) ↔
    database.saved = none ∧ after = { database with saved := some database.tables } := by
  obtain ⟨tables, saved, changes⟩ := database
  cases saved with
  | none =>
    change (Except.ok (), Database.mk tables (some tables) changes) = _ ↔ _
    simp [eq_comm]
  | some saved =>
    refine ⟨fun h => ?_, fun h => ?_⟩
    · cases h
    · cases h.1

theorem runBatch_commit_iff {database after : Database} : runBatch "COMMIT" database = (.ok (), after) ↔
    database.saved ≠ none ∧ after = { database with saved := none } := by
  obtain ⟨tables, saved, changes⟩ := database
  cases saved with
  | none =>
    refine ⟨fun h => ?_, fun h => ?_⟩
    · cases h
    · exact absurd rfl h.1
  | some saved =>
    change (Except.ok (), Database.mk tables none changes) = _ ↔ _
    simp [eq_comm]

theorem engine_transactional : engine.Transactional journal where
  opens := by
    rintro ⟨clock, tables, saved, changes⟩ after hclosed hbegin
    cases hclosed
    cases hbegin
    exact ⟨rfl, rfl⟩
  opens_fails := by
    rintro ⟨clock, tables, saved, changes⟩ after failure hclosed hbegin
    cases hclosed
    cases hbegin
  commits := by
    rintro ⟨clock, tables, saved, changes⟩ after before hopen hcommit
    cases hopen
    cases hcommit
    exact ⟨rfl, rfl⟩
  commits_fails := by
    rintro ⟨clock, tables, saved, changes⟩ after before failure hopen hcommit
    cases hopen
    cases hcommit
  restores := by
    rintro ⟨clock, tables, saved, changes⟩ before hopen
    cases hopen
    exact ⟨_, rfl, rfl, rfl⟩
  restores_nothing := by
    rintro ⟨clock, tables, saved, changes⟩ hclosed
    cases hclosed
    exact ⟨rfl, rfl⟩
  changes := within_change
  asks := within_question
  asks_effect := effect_of_question

end ObjectStore.Tables
