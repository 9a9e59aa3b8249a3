import ObjectStore.Error

/-!
# Names in statements

A table or column name goes into a statement only if it is an identifier. The key field is called `Id` by records, in any case, and `id` by tables.
-/

namespace ObjectStore

/-- The field that identifies a record. -/
def idField : String := "Id"

/-- The column that identifies a row. -/
def idColumn : String := "id"

def checkIdentifier (name : String) : Except CompileError String :=
  if Text.isIdentifier name then .ok name else .error (.invalidIdentifier name)

/-- The column that holds the values of a key field. -/
def keyColumn (field : String) : Except CompileError String :=
  if Text.sameName field idField then .ok idColumn else checkIdentifier field

end ObjectStore
