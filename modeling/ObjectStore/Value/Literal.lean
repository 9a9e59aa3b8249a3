import ObjectStore.Error
import ObjectStore.Sql.Expr
import ObjectStore.Value.Basic

/-!
# Values as literals of a statement

Scalars have literals, a double only if it is finite; a record has none. A list is written for a comparison with its elements and may hold scalars only.
-/

namespace ObjectStore.Value

/-- The literal of a value that is not a list; `listKind` names a list in the failure. -/
def scalar (listKind : String) : Value → Except CompileError Sql.Expr
  | null => .ok .null
  | string s => .ok (Sql.Expr.ofText s)
  | integer n => .ok (.integer n)
  | double d => if d.isFinite then .ok (.real d) else .error (.unrenderable "non-finite Double")
  | boolean b => .ok (.truth b)
  | object className _ => .error (.unrenderable className)
  | list _ => .error (.unrenderable listKind)

/-- The literals of the elements of a list. -/
def scalars (items : List Value) : Except CompileError (List Sql.Expr) :=
  items.mapM (scalar "nested List")

/-- The literal of a value, or of the elements of a list between parentheses. -/
def literalText : Value → Except CompileError String
  | list items => do
    let exprs ← scalars items
    .ok ("(" ++ ", ".intercalate (Sql.Expr.renderAll exprs) ++ ")")
  | value => do
    let expr ← scalar "List" value
    .ok expr.render

end ObjectStore.Value
