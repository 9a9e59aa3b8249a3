import ObjectStore.Store.Basic

/-!
# Stores on an engine

An engine runs the statements of one connection, and while it does so time goes on and deadlines may be cancelled. The store on an engine looks at the deadline before each statement, and once more when the engine says that it was stopped in the middle of one. Transactions are opened, committed and rolled back by statements too. A rollback is bound to no deadline, and a commit that fails for whatever reason is followed by one.
-/

namespace ObjectStore

/-- Why an engine did not run a statement to its end. -/
inductive EngineFailure where
  | refused (reason : String)
  /-- It was told to stop, which is what the watch on a deadline does. -/
  | interrupted
  deriving DecidableEq

/-- The failure as the store reports it. A statement that was stopped has timed out if it has a deadline that says so. -/
def EngineFailure.toStoreError (deadline : Option Deadline) (clock : Clock) (statement : String) :
    EngineFailure → StoreError
  | refused reason => .rejected reason
  | interrupted =>
    match deadline.bind (·.interruption? clock) with
    | some reason => .timeout ⟨statement, reason⟩
    | none => .rejected "interrupted"

/-- What an engine does on its connection. -/
abbrev Work (δ α : Type) := World δ → Except EngineFailure α × World δ

/-- The statements of a connection, given as texts. -/
structure Engine (δ : Type) where
  query : String → Work δ (List Row)
  /-- Runs one statement and answers with the number of rows that it changed. -/
  execute : String → Work δ Nat
  /-- Runs statements separated by semicolons. -/
  batch : String → Work δ Unit
  /-- Answers the question whether a table with the given name exists. -/
  hasTable : String → Work δ Bool

/-- The statement by which the existence of a table is asked for. -/
def tableQuestion : String :=
  "SELECT COUNT(*) FROM sqlite_master WHERE type = 'table' AND name = ?1 COLLATE NOCASE"

namespace Engine

variable {δ α : Type}

/-- Whether a statement may be sent. Without a deadline it always may. -/
def check (deadline : Option Deadline) (clock : Clock) (statement : String) : Except Timeout Unit :=
  match deadline with
  | some deadline => deadline.check clock statement
  | none => .ok ()

/-- Work on a statement under a deadline, which is looked at before the work starts. -/
def guarded (deadline : Option Deadline) (statement : String) (work : Work δ α) : Call δ α := fun world =>
  match check deadline world.clock statement with
  | .error t => (.error (.timeout t), world)
  | .ok () =>
    match work world with
    | (.ok answer, world) => (.ok answer, world)
    | (.error failure, world) => (.error (failure.toStoreError deadline world.clock statement), world)

/-- A rollback runs whatever the deadline of its transaction says. -/
def rollBack (engine : Engine δ) : Call δ Unit :=
  guarded none "ROLLBACK" (engine.batch "ROLLBACK")

/-- A commit that fails leaves the transaction to a rollback, and is reported whether that fails or not. -/
def commitOrRollBack (engine : Engine δ) (deadline : Deadline) : Call δ Unit := fun world =>
  match guarded (some deadline) "COMMIT" (engine.batch "COMMIT") world with
  | (.ok (), world) => (.ok (), world)
  | (.error e, world) => (.error e, (engine.rollBack world).2)

/-- The store on an engine. -/
def store (engine : Engine δ) : Store δ where
  query deadline sql := guarded (some deadline) sql (engine.query sql)
  execute deadline sql := guarded (some deadline) sql (engine.execute sql)
  batch deadline sql := guarded (some deadline) sql (engine.batch sql)
  hasTable deadline table := guarded (some deadline) tableQuestion (engine.hasTable table)
  openTransaction deadline := guarded (some deadline) "BEGIN" (engine.batch "BEGIN")
  commit := engine.commitOrRollBack
  rollback := engine.rollBack

end Engine

end ObjectStore
