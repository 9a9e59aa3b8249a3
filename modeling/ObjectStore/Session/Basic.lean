import ObjectStore.Native.Dispatch
import ObjectStore.Query.Compile
import ObjectStore.Query.Materialize
import ObjectStore.Session.Config

/-!
# Sessions

A session ties a registry, a store and a configuration together. A query is compiled, run and turned into records; nothing is sent when it does not compile. Calls that come without a deadline get one from the configuration. Registering a class publishes a new registry only if all of the declaration could be registered.
-/

namespace ObjectStore

variable {σ : Type}

structure Session (σ : Type) where
  registry : Registry
  store : Store σ
  config : Config

namespace Session

/-- The given deadline, or a new one from the configuration. -/
def deadline (session : Session σ) (given : Option Deadline) (world : World σ) : Deadline × World σ :=
  match given with
  | some deadline => (deadline, world)
  | none => world.issue session.config.settings.duration

def compile (session : Session σ) (query : Query) (bindings : Bindings) : Except Error CompiledQuery :=
  (query.compile session.registry bindings).mapError .compile

/-- The records that a query selects. -/
def query (session : Session σ) (query : Query) (bindings : Bindings) (deadline : Deadline) (world : World σ) :
    Except Error (List Record) × World σ :=
  match session.compile query bindings with
  | .error e => (.error e, world)
  | .ok compiled =>
    match session.store.query deadline compiled.sql world with
    | (.error e, world) => (.error (e.toError compiled.sql none), world)
    | (.ok rows, world) => (session.registry.materialize compiled.target compiled.projection rows, world)

/-- Applies changes to records in the configured mode. -/
def execute (session : Session σ) (intent : Dml.Intent) (deadline : Deadline) (world : World σ) :
    Except Error Dml.Report × World σ :=
  Dml.execute session.store session.config.settings.mode deadline session.registry intent world

/-- The rows that a statement returns. -/
def queryRaw (session : Session σ) (sql : String) (deadline : Deadline) (world : World σ) :
    Except Error (List Row) × World σ :=
  let (result, world) := session.store.query deadline sql world
  (result.mapError (·.toError sql none), world)

/-- The number of rows that a statement changes. -/
def executeRaw (session : Session σ) (sql : String) (deadline : Deadline) (world : World σ) :
    Except Error Nat × World σ :=
  let (result, world) := session.store.execute deadline sql world
  (result.mapError (·.toError sql none), world)

/-- Registers a class with its inner classes; after a failure the session has the registry it had before. -/
def registerClass (session : Session σ) (d : ClassDeclaration) : Except Error ClassType × Session σ :=
  match session.registry.registerDeclaration d with
  | (.ok c, registry) => (.ok c, { session with registry })
  | (.error e, _) => (.error (.compile e), session)

/-- Makes the store available to scripts. -/
def installDatabase (session : Session σ) (tables : List String) (world : World σ) :
    Except Error (Session σ) × World σ :=
  let (result, world) :=
    Native.installDatabase session.store session.config.settings tables session.registry world
  (result.map fun registry => { session with registry }, world)

end Session

end ObjectStore
