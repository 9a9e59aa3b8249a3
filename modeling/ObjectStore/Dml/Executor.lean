import ObjectStore.Class.Registry
import ObjectStore.Dml.Compile
import ObjectStore.Dml.Settings
import ObjectStore.Store.Basic

/-!
# Applying changes to records

An intent applies one operation to a list of records. Record by record, each has an outcome of its own and no failure touches the others. In one transaction, the first failure ends the batch: it is rolled back, the failed record keeps its failure and all the others are reported as rolled back. An upsert first asks whether a row with the record's key exists, and then inserts or updates.
-/

namespace ObjectStore.Dml

structure Intent where
  operation : Operation
  target : String
  records : List Record
  /-- The field that identifies a record in an upsert, if it is not the identifier. -/
  upsertKey : Option String

def Intent.ofStatement (statement : Statement) (target : String) (records : List Record) : Intent :=
  ⟨statement.operation, target, records, statement.upsertKey⟩

/-- A statement that ran. An upsert reports the operation that it turned out to be. -/
structure Applied where
  operation : Operation
  statement : String
  rows : Nat
  deriving DecidableEq

abbrev Outcome := Except Error Applied

/-- The outcomes of the records, in order. -/
structure Report where
  outcomes : List Outcome

namespace Report

def isApplied : Outcome → Bool
  | .ok _ => true
  | .error _ => false

def succeeded (report : Report) : Nat :=
  report.outcomes.countP isApplied

def failed (report : Report) : Nat :=
  report.outcomes.length - report.succeeded

def isSuccess (report : Report) : Bool :=
  report.outcomes.all isApplied

/-- The positions of the records that failed. -/
def failures (report : Report) : List Nat :=
  (report.outcomes.zipIdx.filter fun entry => !isApplied entry.1).map Prod.snd

/-- The statements that ran. -/
def statements (report : Report) : List String :=
  report.outcomes.filterMap fun
    | .ok applied => some applied.statement
    | .error _ => none

end Report

variable {σ : Type}

/-- Runs the statement of the record at the position `index`. -/
def run (store : Store σ) (deadline : Deadline) (operation : Operation) (statement : Sql.Statement) (index : Nat)
    (world : World σ) : Outcome × World σ :=
  let sql := statement.render
  match store.execute deadline sql world with
  | (.ok rows, world) => (.ok ⟨operation, sql, rows⟩, world)
  | (.error e, world) => (.error (e.toError sql (some index)), world)

/-- Runs a statement that may have failed to come about. -/
def runCompiled (store : Store σ) (deadline : Deadline) (operation : Operation)
    (statement : Except Error Sql.Statement) (index : Nat) (world : World σ) : Outcome × World σ :=
  match statement with
  | .ok statement => run store deadline operation statement index world
  | .error e => (.error e, world)

def upsert (store : Store σ) (deadline : Deadline) (className : String) (record : Record) (key : String)
    (index : Nat) (world : World σ) : Outcome × World σ :=
  match lookupStatement className record key index with
  | .error e => (.error e, world)
  | .ok lookup =>
    let sql := lookup.render
    match store.query deadline sql world with
    | (.error e, world) => (.error (e.toError sql (some index)), world)
    | (.ok [], world) =>
      runCompiled store deadline .insert ((insertStatement className record).mapError .compile) index world
    | (.ok (_ :: _), world) =>
      match upsertStatement? className record key index with
      | .error e => (.error e, world)
      | .ok none => (.ok ⟨.update, sql, 0⟩, world)
      | .ok (some statement) => run store deadline .update statement index world

/-- Applies the intent's operation to the record at the position `index`. -/
def applyRecord (store : Store σ) (deadline : Deadline) (className : String) (intent : Intent) (record : Record)
    (index : Nat) (world : World σ) : Outcome × World σ :=
  if record.className ≠ className then
    (.error (.compile (.classMismatch className record.className)), world)
  else
    match intent.operation with
    | .insert => runCompiled store deadline .insert ((insertStatement className record).mapError .compile) index world
    | .update => runCompiled store deadline .update (updateStatement className record index) index world
    | .delete => runCompiled store deadline .delete (deleteStatement className record index) index world
    | .upsert => upsert store deadline className record (intent.upsertKey.getD idField) index world

/-- The outcomes of the records from the position `index` on, each applied on its own. -/
def applyEach (store : Store σ) (deadline : Deadline) (className : String) (intent : Intent) :
    Nat → List Record → World σ → List Outcome × World σ
  | _, [], world => ([], world)
  | index, record :: rest, world =>
    let (outcome, world) := applyRecord store deadline className intent record index world
    let (outcomes, world) := applyEach store deadline className intent (index + 1) rest world
    (outcome :: outcomes, world)

/-- Applies the records from the position `index` on up to the first failure, which is returned with its position. -/
def applyWhileOk (store : Store σ) (deadline : Deadline) (className : String) (intent : Intent) :
    Nat → List Record → World σ → Except (Nat × Error) (List Applied) × World σ
  | _, [], world => (.ok [], world)
  | index, record :: rest, world =>
    match applyRecord store deadline className intent record index world with
    | (.error e, world) => (.error (index, e), world)
    | (.ok applied, world) =>
      match applyWhileOk store deadline className intent (index + 1) rest world with
      | (.error failure, world) => (.error failure, world)
      | (.ok others, world) => (.ok (applied :: others), world)

/-- A failure of the transaction itself. -/
def transactionError : StoreError → Error
  | .timeout t => .timeout t
  | .rejected reason => .execution (.transaction reason)

/-- The outcomes of `count` records of which the one at `failed` failed. -/
def rolledBack (count failed : Nat) (error : Error) : List Outcome :=
  (List.range count).map fun index =>
    .error (if index = failed then error else .execution (.rolledBack index))

/-- The body of the transaction for a batch: it is committed if no record fails. -/
def batchBody (store : Store σ) (deadline : Deadline) (className : String) (intent : Intent) (world : World σ) :
    (TransactionEnd × Except (Nat × Error) (List Applied)) × World σ :=
  match applyWhileOk store deadline className intent 0 intent.records world with
  | (.ok applied, world) => ((.commit, .ok applied), world)
  | (.error failure, world) => ((.rollback, .error failure), world)

/-- Applies all records in one transaction. -/
def applyTogether (store : Store σ) (deadline : Deadline) (className : String) (intent : Intent) (world : World σ) :
    Except Error Report × World σ :=
  match store.inTransaction deadline (batchBody store deadline className intent) world with
  | (.error e, world) => (.error (transactionError e), world)
  | (.ok (_, .ok applied), world) => (.ok ⟨applied.map .ok⟩, world)
  | (.ok (_, .error (failed, error)), world) => (.ok ⟨rolledBack intent.records.length failed error⟩, world)

/-- The names that a batch is going to write must be identifiers. -/
def checkNames (className : String) (intent : Intent) : Except CompileError Unit := do
  let _ ← checkIdentifier className
  match intent.upsertKey with
  | some key => let _ ← checkIdentifier key
  | none => pure ()

/-- Applies an intent to the records of a class. A failure of the whole means that nothing was changed. -/
def executeFor (store : Store σ) (mode : Mode) (deadline : Deadline) (className : String) (intent : Intent)
    (world : World σ) : Except Error Report × World σ :=
  match checkNames className intent with
  | .error e => (.error (.compile e), world)
  | .ok () =>
    match mode with
    | .perRecord =>
      let (outcomes, world) := applyEach store deadline className intent 0 intent.records world
      (.ok ⟨outcomes⟩, world)
    | .atomic => applyTogether store deadline className intent world

/-- Applies an intent to the records of its target, which must be registered. -/
def execute (store : Store σ) (mode : Mode) (deadline : Deadline) (registry : Registry) (intent : Intent)
    (world : World σ) : Except Error Report × World σ :=
  match registry.resolve intent.target with
  | .error e => (.error (.compile e), world)
  | .ok target => executeFor store mode deadline target.name intent world

end ObjectStore.Dml
