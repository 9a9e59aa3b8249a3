import ObjectStore.Sql.Reader
import ObjectStore.Tables.Eval

/-!
# Tables in memory

A database is a list of tables with their rows in the order of insertion. A statement is checked before it runs: its tables and columns must exist. A statement that fails while it runs changes nothing. While a transaction is open, the tables as they were at its start are kept.
-/

namespace ObjectStore.Tables

structure Table where
  name : String
  columns : List Column
  rows : List Row
  deriving Inhabited

structure Database where
  tables : List Table
  /-- The tables at the start of the open transaction. -/
  saved : Option (List Table)
  /-- The number of rows that the last change changed. -/
  changes : Nat
  deriving Inhabited

/-- Why a statement is refused, and the place in it that shows why. -/
structure Refusal where
  reason : String
  place : Option Nat

/-- What a statement returns. -/
structure Answer where
  rows : List Row
  database : Database

namespace Database

def empty : Database := ⟨[], none, 0⟩

def find? (database : Database) (name : String) : Option Table :=
  database.tables.find? fun table => Text.sameName table.name name

def has (database : Database) (name : String) : Bool :=
  (database.find? name).isSome

/-- The database with new rows in a table. -/
def withRows (database : Database) (name : String) (rows : List Row) : Database :=
  { database with
    tables := database.tables.map fun table => if Text.sameName table.name name then { table with rows } else table }

end Database

/-- A refusal without a place. -/
def refuse {α : Type} (reason : String) : Except Refusal α := .error ⟨reason, none⟩

def requireTable (database : Database) (name : String) : Except Refusal Table :=
  match database.find? name with
  | some table => .ok table
  | none => refuse ("no such table: " ++ name)

/-- The place of the first reference to a column after a keyword. -/
def placeOf (after : String) (qualifier : Option String) (name : String) (tokens : List Sql.Placed) : Option Nat :=
  go (tokens.dropWhile fun placed => !placed.token.isWord after)
where
  go : List Sql.Placed → Option Nat
    | [] => none
    | placed :: rest =>
      let found : Bool := match qualifier with
        | some q => placed.token == .word q && (rest.map (·.token)).take 2 == [.symbol ".", .word name]
        | none => placed.token == .word name
      if found then some placed.place else go rest

/-- A column reference. -/
abbrev Reference := Option String × String

mutual

/-- The columns that an expression refers to, in order. -/
def references : Sql.Expr → List Reference
  | .column qualifier name => [(qualifier, name)]
  | .concat left right => references left ++ references right
  | .compare _ left right => references left ++ references right
  | .inList _ subject items => references subject ++ referencesOfAll items
  | .isNull _ subject => references subject
  | .not inner => references inner
  | .all parts => referencesOfAll parts
  | .any parts => referencesOfAll parts
  | .group inner => references inner
  | _ => []

def referencesOfAll : List Sql.Expr → List Reference
  | [] => []
  | expr :: rest => references expr ++ referencesOfAll rest

end

/-- Every reference must mean one column; `clause` is the keyword after which the references stand, if their places are reported. -/
def checkReferences (scope : Scope) (tokens : List Sql.Placed) (clause : Option String) :
    List Reference → Except Refusal Unit
  | [] => .ok ()
  | (qualifier, name) :: rest =>
    let place := clause.bind fun after => placeOf after qualifier name tokens
    match scope.find qualifier name with
    | [] => .error ⟨"no such column: " ++ Sql.columnText qualifier name, place⟩
    | [_] => checkReferences scope tokens clause rest
    | _ => .error ⟨"ambiguous column name: " ++ Sql.columnText qualifier name, place⟩

def blankRow (columns : List Column) : Row := columns.map fun _ => .null

/-- A table without a row, for checking. -/
def blank (qualifier : String) (table : Table) : Bound := ⟨qualifier, table.columns, blankRow table.columns⟩

/-! ## Selections -/

/-- The scopes with the rows of one more table: those that match, or a blank one. -/
def joinTable (table : Table) (join : Sql.Join) (scope : Scope) : List Scope :=
  let bound := fun row => scope ++ [⟨join.name, table.columns, row⟩]
  match (table.rows.map bound).filter (passes · (some join.on)) with
  | [] => [bound (blankRow table.columns)]
  | scopes => scopes

def joinTables : List (Table × Sql.Join) → List Scope → List Scope
  | [], scopes => scopes
  | (table, join) :: rest, scopes => joinTables rest (scopes.flatMap (joinTable table join))

/-- Order of two cells under an order term. Absent cells come first in ascending order, unless the term says otherwise. -/
def termOrder (term : Sql.OrderTerm) (a b : Cell) : Ordering :=
  let nullsFirst : Bool := match term.nulls with
    | some .first => true
    | some .last => false
    | none => term.direction == .ascending
  match a == .null, b == .null with
  | true, true => .eq
  | true, false => if nullsFirst then .lt else .gt
  | false, true => if nullsFirst then .gt else .lt
  | false, false =>
    match term.direction with
    | .ascending => cellOrder a b
    | .descending => (cellOrder a b).swap

/-- Order of two rows by the first term that tells them apart. -/
def scopeOrder : List Sql.OrderTerm → Scope → Scope → Ordering
  | [], _, _ => .eq
  | term :: terms, a, b => (termOrder term (eval a term.expr).2 (eval b term.expr).2).then (scopeOrder terms a b)

def sorted (terms : List Sql.OrderTerm) (scopes : List Scope) : List Scope :=
  scopes.mergeSort fun a b => scopeOrder terms a b != .gt

def paged {α : Type} : Option Sql.Paging → List α → List α
  | none, rows => rows
  | some paging, rows =>
    let rows := rows.drop ((paging.offset.map Int64.toInt).getD 0).toNat
    if paging.limit < 0 then rows else rows.take paging.limit.toInt.toNat

/-- The tables of a selection's joins. -/
def joinedTables (database : Database) (joins : List Sql.Join) : Except Refusal (List (Table × Sql.Join)) :=
  joins.mapM fun join => (requireTable database join.table).map (·, join)

/-- All columns of a selection must exist: first those selected, then those of the condition, the joins and the order. -/
def checkSelect (scope : Scope) (tokens : List Sql.Placed) (s : Sql.Select) (joins : List Sql.Join) :
    Except Refusal Unit := do
  checkReferences scope tokens (some "SELECT") (referencesOfAll s.items)
  checkReferences scope tokens (some "WHERE") (referencesOfAll s.filter.toList)
  checkReferences scope tokens none (referencesOfAll (joins.map (·.on)))
  checkReferences scope tokens (some "ORDER") (referencesOfAll (s.order.map (·.expr)))

/-- The rows that the condition lets pass. -/
def selectScopes (root : Table) (joined : List (Table × Sql.Join)) (filter : Option Sql.Expr) : List Scope :=
  (joinTables joined (root.rows.map fun row => [⟨root.name, root.columns, row⟩])).filter (passes · filter)

def isCount : Sql.Expr → Bool
  | .count => true
  | _ => false

/-- The result rows for the scopes; a selection of the count alone has one row. -/
def resultRows (s : Sql.Select) (scopes : List Scope) : List Row :=
  if s.items.any isCount then paged s.paging [s.items.map fun _ => .integer (Int64.ofNat scopes.length)]
  else (paged s.paging (sorted s.order scopes)).map fun scope => evalAll scope s.items

def runSelect (database : Database) (tokens : List Sql.Placed) (s : Sql.Select) : Except Refusal (List Row) :=
  match s.source with
  | none => do
    checkSelect [] tokens s []
    .ok (resultRows s [[]])
  | some source => do
    let root ← requireTable database source.table
    let joined ← joinedTables database source.joins
    let scope := blank source.table root :: joined.map fun (table, join) => blank join.name table
    checkSelect scope tokens s source.joins
    .ok (resultRows s (selectScopes { root with name := source.table } joined s.filter))

/-! ## Changes -/

/-- Whether another row has the same cell in a key column; absent cells are never the same. -/
def clashes (rows : List Row) (position : Nat) (cell : Cell) : Bool :=
  cell != .null && rows.any fun row => (row[position]?).any fun other => cellOrder other cell == .eq

/-- The first key column in which a row clashes with other rows. -/
def clash? (table : Table) (rows : List Row) (row : Row) : Option Column :=
  ((table.columns.zip row).zipIdx.find? fun ((column, cell), position) =>
    column.isKey && clashes rows position cell).map (·.1.1)

def uniqueRefusal (table : Table) (column : Column) : Refusal :=
  ⟨"UNIQUE constraint failed: " ++ table.name ++ "." ++ column.name, none⟩

/-- A new row: each column takes the first value given under its name. -/
def newRow (table : Table) (columns : List String) (cells : Row) : Row :=
  table.columns.map fun column =>
    match (columns.zip cells).find? fun (name, _) => Text.sameName name column.name with
    | some (_, cell) => column.affinity.store cell
    | none => .null

/-- The rows after the insertion of others, and the number of those that were inserted. -/
def insertRows (table : Table) (skipExisting : Bool) : List Row → List Row → Except Refusal (List Row × Nat)
  | rows, [] => .ok (rows, 0)
  | rows, row :: rest =>
    match clash? table rows row with
    | some column =>
      if skipExisting then insertRows table skipExisting rows rest else .error (uniqueRefusal table column)
    | none => do
      let (rows, count) ← insertRows table skipExisting (rows ++ [row]) rest
      .ok (rows, count + 1)

def requireColumns (table : Table) (written : String) : List String → Except Refusal Unit
  | [] => .ok ()
  | name :: rest =>
    if table.columns.any fun column => Text.sameName column.name name then requireColumns table written rest
    else refuse ("table " ++ written ++ " has no column named " ++ name)

/-- A failed change counts as a change of no rows. -/
def changed (database : Database) (table : Table) (result : Except Refusal (List Row × Nat)) :
    Except Refusal Answer × Database :=
  match result with
  | .ok (rows, count) =>
    let database := { database.withRows table.name rows with changes := count }
    (.ok ⟨[], database⟩, database)
  | .error e => (.error e, { database with changes := 0 })

def checkInsert (database : Database) (tokens : List Sql.Placed) (written : String) (columns : List String)
    (values : List (List Sql.Expr)) : Except Refusal Table := do
  let table ← requireTable database written
  requireColumns table written columns
  for row in values do
    if row.length ≠ columns.length then
      refuse (toString row.length ++ " values for " ++ toString columns.length ++ " columns")
    checkReferences [] tokens (some "VALUES") (referencesOfAll row)
  return table

/-- The new cells of a row: of several assignments to a column the last one counts. -/
def assigned (table : Table) (assignments : List (String × Sql.Expr)) (scope : Scope) (row : Row) : Row :=
  (table.columns.zip row).map fun (column, cell) =>
    match assignments.reverse.find? fun (name, _) => Text.sameName name column.name with
    | some (_, expr) => column.affinity.store (eval scope expr).2
    | none => cell

/-- The rows after an update of those from here on, the rows before being done, and the number of those that were updated. -/
def updateRows (table : Table) (written : String) (assignments : List (String × Sql.Expr)) (filter : Option Sql.Expr)
    (done : List Row) : List Row → Except Refusal (List Row × Nat)
  | [] => .ok (done, 0)
  | row :: rest =>
    let scope : Scope := [⟨written, table.columns, row⟩]
    if passes scope filter then
      let row := assigned table assignments scope row
      match clash? table (done ++ rest) row with
      | some column => .error (uniqueRefusal table column)
      | none => do
        let (rows, count) ← updateRows table written assignments filter (done ++ [row]) rest
        .ok (rows, count + 1)
    else updateRows table written assignments filter (done ++ [row]) rest

def checkAssignments (table : Table) (scope : Scope) (tokens : List Sql.Placed) :
    List (String × Sql.Expr) → Except Refusal Unit
  | [] => .ok ()
  | (name, expr) :: rest => do
    checkReferences scope tokens (some "SET") (references expr)
    if table.columns.any fun column => Text.sameName column.name name then checkAssignments table scope tokens rest
    else refuse ("no such column: " ++ name)

def checkUpdate (database : Database) (tokens : List Sql.Placed) (written : String)
    (assignments : List (String × Sql.Expr)) (filter : Option Sql.Expr) : Except Refusal Table := do
  let table ← requireTable database written
  let scope := [blank written table]
  checkAssignments table scope tokens assignments
  checkReferences scope tokens (some "WHERE") (referencesOfAll filter.toList)
  return table

def checkDelete (database : Database) (tokens : List Sql.Placed) (written : String) (filter : Option Sql.Expr) :
    Except Refusal Table := do
  let table ← requireTable database written
  checkReferences [blank written table] tokens (some "WHERE") (referencesOfAll filter.toList)
  return table

/-- The rows that a deletion leaves, and the number of the others. -/
def remaining (table : Table) (written : String) (filter : Option Sql.Expr) : List Row × Nat :=
  let rows := table.rows.filter fun row => !passes [⟨written, table.columns, row⟩] filter
  (rows, table.rows.length - rows.length)

def newTable (name : String) (columns : List Sql.ColumnSpec) : Table :=
  ⟨name, columns.map fun spec => ⟨spec.name, .ofTypeName spec.typeName, spec.isKey⟩, []⟩

/-- The place of the name of a table. -/
def placeOfName (name : String) (tokens : List Sql.Placed) : Option Nat :=
  (tokens.find? fun placed => placed.token == .word name).map (·.place)

namespace Database

/-- The database with other tables, which answers no rows. -/
def become (database : Database) : Except Refusal Answer × Database := (.ok ⟨[], database⟩, database)

def refused (database : Database) (reason : String) (place : Option Nat) : Except Refusal Answer × Database :=
  (.error ⟨reason, place⟩, database)

/-- Runs a statement, whose tokens tell the places of its parts. -/
def run (database : Database) (tokens : List Sql.Placed) : Sql.Statement → Except Refusal Answer × Database
  | .select s => ((runSelect database tokens s).map (⟨·, database⟩), database)
  | .insert skipExisting written columns values =>
    match checkInsert database tokens written columns values with
    | .error e => (.error e, database)
    | .ok table =>
      changed database table
        (insertRows table skipExisting table.rows (values.map fun row => newRow table columns (evalAll [] row)))
  | .insertDefaults written =>
    match requireTable database written with
    | .error e => (.error e, database)
    | .ok table => changed database table (insertRows table false table.rows [blankRow table.columns])
  | .update written assignments filter =>
    match checkUpdate database tokens written assignments filter with
    | .error e => (.error e, database)
    | .ok table => changed database table (updateRows table written assignments filter [] table.rows)
  | .delete written filter =>
    match checkDelete database tokens written filter with
    | .error e => (.error e, database)
    | .ok table => changed database table (.ok (remaining table written filter))
  | .createTable skipExisting name columns =>
    if database.has name then
      if skipExisting then become database
      else refused database ("table " ++ name ++ " already exists") (placeOfName name tokens)
    else become { database with tables := database.tables ++ [newTable name columns] }
  | .openTransaction =>
    match database.saved with
    | some _ => refused database "cannot start a transaction within a transaction" none
    | none => become { database with saved := some database.tables }
  | .commit =>
    match database.saved with
    | some _ => become { database with saved := none }
    | none => refused database "cannot commit - no transaction is active" none
  | .rollback =>
    match database.saved with
    | some tables => become { database with tables, saved := none }
    | none => refused database "cannot rollback - no transaction is active" none

end Database

end ObjectStore.Tables
