import ObjectStore.Store.Engine
import ObjectStore.Tables.Database

/-!
# The store of tables in memory

The tables are an engine whose statements take no time, and the store is the one on that engine. A text may hold several statements, separated by semicolons: a query and an execution take the first one, and a batch runs them in order up to the first that fails, keeping what those before it did. A place in a message counts from the statement that it belongs to.
-/

namespace ObjectStore.Tables

/-- The characters after the given number of bytes. -/
def dropBytes : Nat → List Char → List Char
  | _, [] => []
  | 0, cs => cs
  | n, c :: cs => dropBytes (n - c.utf8Size) cs

/-- A statement of a text: its place and its tokens. -/
structure Part where
  place : Nat
  tokens : List Sql.Placed

/-- The statements between semicolons, from the one that starts at a place and of which the tokens `read`, in reverse, have been read. -/
def partsFrom (place : Nat) (read : List Sql.Placed) : List Sql.Placed → List Part
  | [] => [⟨place, read.reverse⟩]
  | placed :: rest =>
    if placed.token == .symbol ";" then ⟨place, read.reverse⟩ :: partsFrom (placed.place + 1) [] rest
    else partsFrom place (placed :: read) rest

/-- The statements of a text, without empty ones. -/
def parts? (sql : String) : Option (List Part) :=
  (Sql.tokens? sql).map fun tokens => (partsFrom 0 [] tokens).filter fun part => !part.tokens.isEmpty

/-- The message of a refusal. One that has a place shows the text from the statement on. -/
def Refusal.message (refusal : Refusal) (sql : String) (part : Part) : String :=
  match refusal.place with
  | some place =>
    refusal.reason ++ " in " ++ String.ofList (dropBytes part.place sql.toList) ++ " at offset " ++
      toString (place - part.place)
  | none => refusal.reason

/-- What is said about a text that is no statement. -/
def unreadable (tokens : List Sql.Placed) : Refusal :=
  match tokens with
  | placed :: _ => ⟨"near \"" ++ placed.token.display ++ "\": syntax error", some placed.place⟩
  | [] => ⟨"incomplete input", none⟩

/-- Runs one statement of a text. -/
def runPart (sql : String) (part : Part) (database : Database) : Except EngineFailure Answer × Database :=
  match Sql.Statement.ofTokens? (part.tokens.map (·.token)) with
  | none => (.error (.refused ((unreadable part.tokens).message sql part)), database)
  | some statement =>
    match database.run part.tokens statement with
    | (.ok answer, database) => (.ok answer, database)
    | (.error refusal, database) => (.error (.refused (refusal.message sql part)), database)

/-- Runs the first statement of a text, which must hold one. -/
def runFirst (sql : String) (database : Database) : Except EngineFailure Answer × Database :=
  match parts? sql with
  | none => (.error (.refused "unrecognized token"), database)
  | some [] => (.error (.refused "not an error"), database)
  | some (part :: _) => runPart sql part database

/-- Runs statements in order up to the first that fails. -/
def runParts (sql : String) : List Part → Database → Except EngineFailure Unit × Database
  | [], database => (.ok (), database)
  | part :: rest, database =>
    match runPart sql part database with
    | (.ok _, database) => runParts sql rest database
    | (.error e, database) => (.error e, database)

def runBatch (sql : String) (database : Database) : Except EngineFailure Unit × Database :=
  match parts? sql with
  | none => (.error (.refused "unrecognized token"), database)
  | some parts => runParts sql parts database

/-- The rows that a statement returns. -/
def queryRows (sql : String) (database : Database) : Except EngineFailure (List Row) × Database :=
  let (result, database) := runFirst sql database
  (result.map (·.rows), database)

/-- The number of rows that a statement changes. One that returns rows is refused. -/
def changedRows (sql : String) (database : Database) : Except EngineFailure Nat × Database :=
  match runFirst sql database with
  | (.error e, database) => (.error e, database)
  | (.ok answer, database) =>
    if answer.rows.isEmpty then (.ok database.changes, database)
    else (.error (.refused "Execute returned results - did you mean to call query?"), database)

/-- Work on the tables, during which no time passes. -/
def instant {α : Type} (body : Database → Except EngineFailure α × Database) : Work Database α := fun world =>
  let (result, state) := body world.state
  (result, { world with state })

/-- The engine of the tables. -/
def engine : Engine Database where
  query sql := instant (queryRows sql)
  execute sql := instant (changedRows sql)
  batch sql := instant (runBatch sql)
  hasTable table := instant fun database => (.ok (database.has table), database)

/-- The store of the tables. -/
def store : Store Database := engine.store

/-- What is said about a path at which no store can be opened. Tables are kept in memory, under one path alone. -/
def openFailure? (path : String) : Option String :=
  if path == ":memory:" then none else some ("unable to open database file: " ++ path)

end ObjectStore.Tables
