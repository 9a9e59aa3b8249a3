import ObjectStore.Query.Plan
import ObjectStore.Value.Literal

/-!
# Compiling queries

A query becomes one selection with a column for each selected path, together with the paths, which say where each column of a result belongs, and the class of the resulting records. Paths are planned in the order selection, condition, ordering. The parts of a combined condition are always in parentheses, so that the statement means what the condition does.
-/

namespace ObjectStore

/-- Values of variables. -/
abbrev Bindings := List (String × Value)

structure CompiledQuery where
  select : Sql.Select
  projection : List FieldPath
  target : ClassType

def CompiledQuery.sql (compiled : CompiledQuery) : String :=
  compiled.select.render

namespace Operand

/-- The value of an operand, a variable standing for what it is bound to. -/
def resolve (bindings : Bindings) : Operand → Except CompileError Value
  | literal l => .ok (.ofLiteral l)
  | list items => .ok (.list (items.map .ofLiteral))
  | bind name =>
    match bindings.lookup name with
    | some value => .ok value
    | none => .error (.unboundVariable name)

end Operand

namespace Comparison

/-- The operator of a comparison with a single value. -/
def operator? : Comparison → Option Sql.Operator
  | equal => some .equal
  | notEqual => some .notEqual
  | less => some .less
  | atMost => some .atMost
  | greater => some .greater
  | atLeast => some .atLeast
  | like => some .like
  | inList => none
  | notInList => none

/-- The comparison of a column with a single value. Only equality and inequality can be with null. -/
def withValue (comparison : Comparison) (operator : Sql.Operator) (column : Sql.Expr) :
    Value → Except CompileError Sql.Expr
  | .list _ => .error (.invalidOperand comparison .list)
  | .null =>
    match comparison with
    | equal => .ok (.isNull false column)
    | notEqual => .ok (.isNull true column)
    | _ => .error (.invalidOperand comparison .null)
  | value => do
    let expr ← value.scalar "List"
    .ok (.compare operator column expr)

/-- The comparison of a column with a list. No value is in the empty list. -/
def withList (comparison : Comparison) (column : Sql.Expr) : Value → Except CompileError Sql.Expr
  | .list [] => .ok (.integer (if comparison = notInList then 1 else 0))
  | .list items => do
    let exprs ← Value.scalars items
    .ok (.inList (comparison = notInList) column exprs)
  | _ => .error (.invalidOperand comparison .singleValue)

def expr (comparison : Comparison) (column : Sql.Expr) (value : Value) : Except CompileError Sql.Expr :=
  match comparison.operator? with
  | some operator => comparison.withValue operator column value
  | none => comparison.withList column value

end Comparison

namespace Condition

mutual

/-- The condition as an expression. Nothing is to be satisfied by all of no parts and by any of them. -/
def expr (registry : Registry) (bindings : Bindings) : Condition → Plan → Except CompileError (Sql.Expr × Plan)
  | compare field comparison operand, plan => do
    let (column, plan) ← plan.column? registry field 0
    let value ← operand.resolve bindings
    let result ← comparison.expr column value
    .ok (result, plan)
  | all [], plan => .ok (.integer 1, plan)
  | all (part :: parts), plan => do
    let (first, plan) ← part.expr registry bindings plan
    let (rest, plan) ← exprs registry bindings parts plan
    .ok (.group (.all (first :: rest)), plan)
  | any [], plan => .ok (.integer 0, plan)
  | any (part :: parts), plan => do
    let (first, plan) ← part.expr registry bindings plan
    let (rest, plan) ← exprs registry bindings parts plan
    .ok (.group (.any (first :: rest)), plan)
  | not inner, plan => do
    let (result, plan) ← inner.expr registry bindings plan
    .ok (.not (.group result), plan)

def exprs (registry : Registry) (bindings : Bindings) :
    List Condition → Plan → Except CompileError (List Sql.Expr × Plan)
  | [], plan => .ok ([], plan)
  | part :: parts, plan => do
    let (first, plan) ← part.expr registry bindings plan
    let (rest, plan) ← exprs registry bindings parts plan
    .ok (first :: rest, plan)

end

end Condition

namespace Plan

/-- The columns of the selected paths from the position `index` on, none of which may be among those before. -/
def selectColumns (registry : Registry) : Nat → List FieldPath → List FieldPath → Plan →
    Except CompileError (List Sql.Expr × Plan)
  | _, _, [], plan => .ok ([], plan)
  | index, before, path :: rest, plan =>
    if path.segments.isEmpty then .error (.emptyFieldPath index)
    else if path ∈ before then .error (.duplicateField path.display)
    else do
      let (column, plan) ← plan.column? registry path index
      let (columns, plan) ← selectColumns registry (index + 1) (path :: before) rest plan
      .ok (column :: columns, plan)

/-- The plan with the joins of all the paths, from the position `index` on. -/
def addPaths (registry : Registry) : Nat → List FieldPath → Plan → Except CompileError Plan
  | _, [], plan => .ok plan
  | index, path :: rest, plan => do
    let (_, plan) ← plan.column? registry path index
    addPaths registry (index + 1) rest plan

def filterExpr (registry : Registry) (bindings : Bindings) : Option Condition → Plan →
    Except CompileError (Option Sql.Expr × Plan)
  | none, plan => .ok (none, plan)
  | some condition, plan => do
    let plan ← plan.addPaths registry 0 condition.fields
    let (expr, plan) ← condition.expr registry bindings plan
    .ok (some expr, plan)

def orderTerms (registry : Registry) : Nat → List OrderBy → Plan →
    Except CompileError (List Sql.OrderTerm × Plan)
  | _, [], plan => .ok ([], plan)
  | index, order :: rest, plan => do
    let (column, plan) ← plan.column? registry order.field index
    let (terms, plan) ← orderTerms registry (index + 1) rest plan
    .ok (⟨column, order.direction, order.nulls⟩ :: terms, plan)

end Plan

/-- A number of rows as a signed 64-bit integer, which is how the store reads it. -/
def rowCount (clause : String) : Option UInt64 → Except CompileError (Option Int64)
  | none => .ok none
  | some n =>
    match Number.int64? n.toNat with
    | some count => .ok (some count)
    | none => .error (.pagingOutOfRange clause n)

/-- An offset needs a limit before it, if only one that does not bind. -/
def paging : Option Int64 → Option Int64 → Option Sql.Paging
  | some limit, offset => some ⟨limit, offset⟩
  | none, some offset => some ⟨-1, some offset⟩
  | none, none => none

namespace Query

def compile (registry : Registry) (query : Query) (bindings : Bindings) : Except CompileError CompiledQuery := do
  let source ← checkIdentifier query.source
  let target ← registry.resolve source
  if query.fields.isEmpty then throw (.emptySelection source)
  let (items, plan) ← (Plan.start source).selectColumns registry 0 [] query.fields
  let (filter, plan) ← plan.filterExpr registry bindings query.filter
  let (order, plan) ← plan.orderTerms registry 0 query.orderBy
  let limit ← rowCount "LIMIT" query.limit
  let offset ← rowCount "OFFSET" query.offset
  let select : Sql.Select := ⟨items, some plan.source, filter, order, paging limit offset⟩
  return ⟨select, query.fields, target⟩

end Query

end ObjectStore
