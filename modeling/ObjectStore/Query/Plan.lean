import ObjectStore.Class.Registry
import ObjectStore.Sql.Identifier
import ObjectStore.Sql.Statement

/-!
# Join plans

A path that leaves the queried class needs a join for each of its relations. The plan collects these joins: one for each sequence of relations that occurs, in the order of first use, so that paths with common relations share their joins. A join is named by its relations with underscores between them. Different sequences may give the same name, and then the later one is refused. A failure leaves in the plan what was joined before it.
-/

namespace ObjectStore

/-- A join for a sequence of relations. Its table is the class that the last one leads to. -/
structure PlannedJoin where
  relations : List String
  table : String
  name : String
  /-- The name under which the table at the other end was joined before. -/
  parent : String
  /-- The last relation. -/
  relation : String
  deriving DecidableEq

structure Plan where
  root : String
  joins : List PlannedJoin
  deriving DecidableEq

namespace Plan

def start (root : String) : Plan := ⟨root, []⟩

/-- The names by which a column can say which table it belongs to. -/
def names (plan : Plan) : List String :=
  plan.root :: plan.joins.map (·.name)

/-- The join for a sequence of relations. -/
def find? (plan : Plan) (relations : List String) : Option PlannedJoin :=
  plan.joins.find? fun join => join.relations == relations

/-- The name of the table that `relations` lead to from the table named `parent`, which `followed` lead to from the root. -/
def follow (registry : Registry) (path : FieldPath) (followed : List String) (parent : String) :
    List String → Plan → Except CompileError String × Plan
  | [], plan => (.ok parent, plan)
  | relation :: rest, plan =>
    match checkIdentifier relation with
    | .error e => (.error e, plan)
    | .ok _ =>
      if followed.isEmpty && relation == plan.root then (.error (.selfRelation relation), plan)
      else
        let relations := followed ++ [relation]
        match plan.find? relations with
        | some join => follow registry path relations join.name rest plan
        | none =>
          match registry.resolveRelation relation path.display with
          | .error e => (.error e, plan)
          | .ok target =>
            let name := "_".intercalate relations
            if plan.names.contains name then (.error (.aliasCollision name path.display), plan)
            else
              let join : PlannedJoin := ⟨relations, target.name, name, parent, relation⟩
              follow registry path relations name rest { plan with joins := plan.joins ++ [join] }

/-- The column that a path reads, and the plan with the joins that it needs. -/
def column (registry : Registry) (path : FieldPath) (index : Nat) (plan : Plan) :
    Except CompileError Sql.Expr × Plan :=
  match path.leaf? with
  | none => (.error (.emptyFieldPath index), plan)
  | some leaf =>
    match checkIdentifier leaf with
    | .error e => (.error e, plan)
    | .ok _ =>
      match follow registry path [] plan.root path.relations plan with
      | (.error e, plan) => (.error e, plan)
      | (.ok name, plan) => (.ok (.column (some name) leaf), plan)

/-- The column that a path reads; the plan matters only if there is one. -/
def column? (registry : Registry) (path : FieldPath) (index : Nat) (plan : Plan) :
    Except CompileError (Sql.Expr × Plan) :=
  match plan.column registry path index with
  | (.ok expr, plan) => .ok (expr, plan)
  | (.error e, _) => .error e

/-- A join as it is written: the row identified by the parent's column for the relation. -/
def joinClause (join : PlannedJoin) : Sql.Join where
  table := join.table
  name := join.name
  on := .compare .equal (.column (some join.name) idColumn) (.column (some join.parent) (join.relation ++ "Id"))

def source (plan : Plan) : Sql.Source :=
  ⟨plan.root, plan.joins.map joinClause⟩

end Plan

end ObjectStore
