import ObjectStore.Sql.Identifier
import ObjectStore.Sql.Statement
import ObjectStore.Value.Literal

/-!
# Statements for records

A record becomes a statement that names its columns after its fields. Fields without a value are left out. A statement that changes or deletes rows is always restricted to those whose key column has the value that the record has in its key field, and a record without such a value has no statement.
-/

namespace ObjectStore.Dml

/-- The literal for a column, which lists and records do not have. -/
def columnLiteral (value : Value) : Except CompileError Sql.Expr :=
  value.scalar "List"

/-- The value in the key field of the record at the position `index`. -/
def requiredKey (className : String) (record : Record) (field : String) (index : Nat) : Except Error Value :=
  match record.get? field with
  | some value =>
    if value.isNull then .error (.lookup (.missingKey className field index)) else .ok value
  | none => .error (.lookup (.missingKey className field index))

/-- The fields with a value whose names differ from those to be skipped. -/
def writtenFields (record : Record) (skipped : List String) : List (String × Value) :=
  record.fields.filter fun field => !field.2.isNull && !skipped.any (Text.sameName · field.1)

/-- Columns with the literals of their values. -/
def assignments (record : Record) (skipped : List String) : Except CompileError (List (String × Sql.Expr)) :=
  (writtenFields record skipped).mapM fun (name, value) => do
    let column ← checkIdentifier name
    let literal ← columnLiteral value
    .ok (column, literal)

/-- The condition that a column has a value. -/
def keyCondition (column : String) (literal : Sql.Expr) : Sql.Expr :=
  .compare .equal (.column none column) literal

def insertStatement (className : String) (record : Record) : Except CompileError Sql.Statement := do
  let table ← checkIdentifier className
  let assigned ← assignments record []
  if assigned.isEmpty then return .insertDefaults table
  return .insert false table (assigned.map Prod.fst) [assigned.map Prod.snd]

def updateStatement (className : String) (record : Record) (index : Nat) : Except Error Sql.Statement := do
  let table ← (checkIdentifier className).mapError .compile
  let id ← requiredKey className record idField index
  let assigned ← (assignments record [idField]).mapError .compile
  if assigned.isEmpty then throw (.compile (.emptyUpdate className))
  let literal ← (columnLiteral id).mapError .compile
  return .update table assigned (some (keyCondition idColumn literal))

def deleteStatement (className : String) (record : Record) (index : Nat) : Except Error Sql.Statement := do
  let table ← (checkIdentifier className).mapError .compile
  let id ← requiredKey className record idField index
  let literal ← (columnLiteral id).mapError .compile
  return .delete table (some (keyCondition idColumn literal))

/-- The question whether a row with the record's key exists. -/
def lookupStatement (className : String) (record : Record) (key : String) (index : Nat) :
    Except Error Sql.Statement := do
  let table ← (checkIdentifier className).mapError .compile
  let value ← requiredKey className record key index
  let column ← (keyColumn key).mapError .compile
  let literal ← (columnLiteral value).mapError .compile
  return .select {
    items := [.column none idColumn]
    source := some ⟨table, []⟩
    filter := some (keyCondition column literal)
    order := []
    paging := some ⟨1, none⟩
  }

/-- The update of the row with the record's key, if the record has other values to write. -/
def upsertStatement? (className : String) (record : Record) (key : String) (index : Nat) :
    Except Error (Option Sql.Statement) := do
  let table ← (checkIdentifier className).mapError .compile
  let value ← requiredKey className record key index
  let assigned ← (assignments record [idField, key]).mapError .compile
  if assigned.isEmpty then return none
  let column ← (keyColumn key).mapError .compile
  let literal ← (columnLiteral value).mapError .compile
  return some (.update table assigned (some (keyCondition column literal)))

end ObjectStore.Dml
