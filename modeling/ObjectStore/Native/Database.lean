import ObjectStore.Dml.Executor
import ObjectStore.Native.Builtin

/-!
# The native class that works on the store

Scripts change records with the methods of this class, which answer with a truth value for each record, and count them. It is registered only over a store that answers and has the tables that are required; the calls for that are made one after the other up to the first that fails.
-/

namespace ObjectStore.Native

variable {σ : Type}

def databaseName : String := "Database"

def databaseError (method reason : String) : Error :=
  .native databaseName method reason

/-- The records in a list, from the position `index` on. -/
def recordsFrom (method : String) : Nat → List Value → Except Error (List Record)
  | _, [] => .ok []
  | index, item :: rest =>
    match item.asRecord? with
    | some record => do
      let records ← recordsFrom method (index + 1) rest
      .ok (record :: records)
    | none =>
      .error (databaseError method ("element #" ++ toString index ++ " is " ++ item.typeName ++ ", not a record"))

def records (method : String) : Value → Except Error (List Record)
  | .list items => recordsFrom method 0 items
  | value => .error (databaseError method ("expected List, got " ++ value.typeName))

/-- The name of the key field, which is the second argument. -/
def keyArgument (method : String) (arguments : List Value) : Except Error String := do
  match ← argument databaseName method arguments 1 with
  | .string key => .ok key
  | _ => .error (databaseError method "key field must be a String")

/-- The records to be changed and, for a change that is given one, the key field. -/
def changeArguments (operation : Dml.Operation) (keyed : Bool) (arguments : List Value) :
    Except Error (List Record × Option String) := do
  let key ← if keyed then some <$> keyArgument operation.name arguments else pure none
  let first ← argument databaseName operation.name arguments 0
  let records ← records operation.name first
  .ok (records, key)

/-- Whether each record was changed. -/
def changed (report : Dml.Report) : Value :=
  .list (report.outcomes.map fun outcome => .boolean (Dml.Report.isApplied outcome))

/-- Applies an operation to the records in the first argument, all taken to be of the class of the first one. -/
def change (store : Store σ) (settings : Dml.Settings) (operation : Dml.Operation) (keyed : Bool)
    (arguments : List Value) (world : World σ) : Except Error Value × World σ :=
  match changeArguments operation keyed arguments with
  | .error e => (.error e, world)
  | .ok ([], _) => (.ok (.list []), world)
  | .ok (first :: rest, key) =>
    let intent : Dml.Intent := ⟨operation, first.className, first :: rest, key⟩
    let (deadline, world) := world.issue settings.duration
    let (result, world) := Dml.executeFor store settings.mode deadline first.className intent world
    (result.map changed, world)

/-- The statement that counts the records of a class. -/
def countStatement (arguments : List Value) : Except Error Sql.Statement := do
  match ← argument databaseName "countRecords" arguments 0 with
  | .string name =>
    let table ← (checkIdentifier name).mapError .compile
    .ok (.select ⟨[.count], some ⟨table, []⟩, none, [], none⟩)
  | _ => .error (databaseError "countRecords" "class name must be a String")

/-- The count in a result. -/
def countOf : List Row → Except Error Value
  | (.integer n :: _) :: _ => .ok (.integer n)
  | _ => .error (databaseError "countRecords" "store returned no count")

def countRecords (store : Store σ) (settings : Dml.Settings) (arguments : List Value) (world : World σ) :
    Except Error Value × World σ :=
  match countStatement arguments with
  | .error e => (.error e, world)
  | .ok statement =>
    let sql := statement.render
    let (deadline, world) := world.issue settings.duration
    match store.query deadline sql world with
    | (.error e, world) => (.error (e.toError sql none), world)
    | (.ok rows, world) => (countOf rows, world)

/-- Answers what a script asks of the store. -/
def answer (store : Store σ) (settings : Dml.Settings) (call : DatabaseCall) (arguments : List Value)
    (world : World σ) : Except Error Value × World σ :=
  match call with
  | .change operation keyed => change store settings operation keyed arguments world
  | .countRecords => countRecords store settings arguments world

/-- The method for an operation. -/
def changeMethod (settings : Dml.Settings) (operation : Dml.Operation) (keyed : Bool) : Method :=
  .ofNative operation.name (if keyed then ["List", "String"] else ["List"]) (some "List")
    (.database settings (.change operation keyed))

def database (settings : Dml.Settings) : ClassType :=
  { ClassType.bare databaseName with
    staticMethods := ⟨[
      ("insert", [changeMethod settings .insert false]),
      ("update", [changeMethod settings .update false]),
      ("delete", [changeMethod settings .delete false]),
      ("upsert", [changeMethod settings .upsert false, changeMethod settings .upsert true]),
      ("countRecords",
        [.ofNative "countRecords" ["String"] (some "Integer") (.database settings .countRecords)])
    ]⟩ }

/-- Checks that the tables exist, one after the other. -/
def requireTables (store : Store σ) (settings : Dml.Settings) : List String → World σ → Except Error Unit × World σ
  | [], world => (.ok (), world)
  | table :: rest, world =>
    let (deadline, world) := world.issue settings.duration
    match store.hasTable deadline table world with
    | (.error e, world) => (.error (e.toError "table lookup" none), world)
    | (.ok false, world) => (.error (.config ("required table '" ++ table ++ "' does not exist")), world)
    | (.ok true, world) => requireTables store settings rest world

/-- The registry with the class for the store, if the store answers and has the tables. -/
def installDatabase (store : Store σ) (settings : Dml.Settings) (tables : List String) (registry : Registry)
    (world : World σ) : Except Error Registry × World σ :=
  let (deadline, world) := world.issue settings.duration
  match store.query deadline "SELECT 1" world with
  | (.error e, world) => (.error (.config ("store is not reachable: " ++ e.message)), world)
  | (.ok _, world) =>
    match requireTables store settings tables world with
    | (.error e, world) => (.error e, world)
    | (.ok (), world) => ((registry.register (database settings)).mapError .compile, world)

end ObjectStore.Native
