import ObjectStore.Query.Basic
import ObjectStore.Sql.Expr

/-!
# Statements and their text

The statements that the library writes and that its table store runs. A selection reads one table and the tables joined to it; every joined table keeps the rows on its left that it has no match for.
-/

namespace ObjectStore.Sql

/-- A table joined on a condition, under a name of its own. -/
structure Join where
  table : String
  name : String
  on : Expr
  deriving Inhabited

structure OrderTerm where
  expr : Expr
  direction : SortDirection
  nulls : Option NullsOrder
  deriving Inhabited

/-- How many rows are returned, a negative number being no bound, and how many are skipped before. -/
structure Paging where
  limit : Int64
  offset : Option Int64
  deriving DecidableEq, Inhabited

/-- The table that a selection starts from, and the joins in order. -/
structure Source where
  table : String
  joins : List Join
  deriving Inhabited

structure Select where
  items : List Expr
  source : Option Source
  filter : Option Expr
  order : List OrderTerm
  paging : Option Paging
  deriving Inhabited

/-- A column of a new table; a key column holds no value twice. -/
structure ColumnSpec where
  name : String
  typeName : String
  isKey : Bool
  deriving DecidableEq, Inhabited

inductive Statement where
  | select (select : Select)
  /-- Rows of values for the named columns. Rows with a key in use are skipped if `skipExisting`. -/
  | insert (skipExisting : Bool) (table : String) (columns : List String) (rows : List (List Expr))
  | insertDefaults (table : String)
  | update (table : String) (assignments : List (String × Expr)) (filter : Option Expr)
  | delete (table : String) (filter : Option Expr)
  /-- A new table; one that exists stays as it is if `skipExisting`. -/
  | createTable (skipExisting : Bool) (table : String) (columns : List ColumnSpec)
  | openTransaction
  | commit
  | rollback
  deriving Inhabited

/-- Parts separated by commas. -/
def commaList (parts : List String) : String := ", ".intercalate parts

namespace Join

def render (join : Join) : String :=
  " LEFT JOIN " ++ join.table ++ (if join.name == join.table then "" else " AS " ++ join.name) ++ " ON " ++
    join.on.render

end Join

namespace OrderTerm

def render (term : OrderTerm) : String :=
  term.expr.render ++
    (match term.direction with
      | .ascending => " ASC"
      | .descending => " DESC") ++
    (match term.nulls with
      | some .first => " NULLS FIRST"
      | some .last => " NULLS LAST"
      | none => "")

end OrderTerm

def integerText (n : Int64) : String := String.ofList (Number.writeInt n.toInt)

namespace Paging

def render (paging : Paging) : String :=
  " LIMIT " ++ integerText paging.limit ++
    (match paging.offset with
      | some offset => " OFFSET " ++ integerText offset
      | none => "")

end Paging

def renderFilter : Option Expr → String
  | some filter => " WHERE " ++ filter.render
  | none => ""

namespace Select

def renderSource : Option Source → String
  | some source => " FROM " ++ source.table ++ "".intercalate (source.joins.map Join.render)
  | none => ""

def renderOrder : List OrderTerm → String
  | [] => ""
  | terms => " ORDER BY " ++ commaList (terms.map OrderTerm.render)

def render (s : Select) : String :=
  "SELECT " ++ commaList (Expr.renderAll s.items) ++ renderSource s.source ++ renderFilter s.filter ++
    renderOrder s.order ++ (match s.paging with
      | some paging => paging.render
      | none => "")

end Select

def renderAssignment (assignment : String × Expr) : String :=
  assignment.1 ++ " = " ++ assignment.2.render

def renderRow (row : List Expr) : String :=
  "(" ++ commaList (Expr.renderAll row) ++ ")"

def ColumnSpec.render (column : ColumnSpec) : String :=
  column.name ++ (if column.typeName == "" then "" else " " ++ column.typeName) ++
    (if column.isKey then " PRIMARY KEY" else "")

namespace Statement

def render : Statement → String
  | select s => s.render
  | insert skipExisting table columns rows =>
    (if skipExisting then "INSERT OR IGNORE INTO " else "INSERT INTO ") ++ table ++ " (" ++ commaList columns ++
      ") VALUES " ++ commaList (rows.map renderRow)
  | insertDefaults table => "INSERT INTO " ++ table ++ " DEFAULT VALUES"
  | update table assignments filter =>
    "UPDATE " ++ table ++ " SET " ++ commaList (assignments.map renderAssignment) ++ renderFilter filter
  | delete table filter => "DELETE FROM " ++ table ++ renderFilter filter
  | createTable skipExisting table columns =>
    (if skipExisting then "CREATE TABLE IF NOT EXISTS " else "CREATE TABLE ") ++ table ++ " (" ++
      commaList (columns.map ColumnSpec.render) ++ ")"
  | openTransaction => "BEGIN"
  | commit => "COMMIT"
  | rollback => "ROLLBACK"

end Statement

end ObjectStore.Sql
