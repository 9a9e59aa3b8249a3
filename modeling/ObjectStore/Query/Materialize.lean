import ObjectStore.Class.Registry
import ObjectStore.Store.Conversion

/-!
# From rows to records

Every row of a result becomes a record of the queried class. The paths of the projection say where the columns go: the relations of a path lead through related records, which come into being when the first column below them is placed and are shared by the later ones. A row must have a column for each path, and every column must fit the kind that the class reached by its path declares.
-/

namespace ObjectStore.Registry

/-- The fields of a record of class `owner`, with the value of a cell placed at the end of the relations. -/
def place (registry : Registry) (path : FieldPath) (leaf : String) (cell : Cell) :
    ClassType → List String → List (String × Value) → Except Error (List (String × Value))
  | owner, [], fields =>
    match cell.convert (owner.fieldType? leaf) path.display with
    | .ok value => .ok (Fields.set leaf value fields)
    | .error e => .error (.conversion e)
  | _, relation :: rest, fields =>
    match registry.resolveRelation relation path.display with
    | .error e => .error (.compile e)
    | .ok target => do
      let related := match fields.lookup relation with
        | some (.object _ related) => related
        | _ => []
      let related ← place registry path leaf cell target rest related
      .ok (Fields.set relation (.object target.name related) fields)

/-- The fields of a record with the columns from the position `index` on. -/
def placeColumns (registry : Registry) (target : ClassType) : Nat → List (FieldPath × Cell) →
    List (String × Value) → Except Error (List (String × Value))
  | _, [], fields => .ok fields
  | index, (path, cell) :: rest, fields =>
    match path.leaf? with
    | none => .error (.compile (.emptyFieldPath index))
    | some leaf => do
      let fields ← registry.place path leaf cell target path.relations fields
      placeColumns registry target (index + 1) rest fields

def materializeRow (registry : Registry) (target : ClassType) (projection : List FieldPath) (row : Row) :
    Except Error Record :=
  if row.length ≠ projection.length then .error (.execution (.projectionMismatch projection.length row.length))
  else do
    let fields ← registry.placeColumns target 0 (projection.zip row) []
    .ok ⟨target.name, fields⟩

/-- A record for each row, or the first failure. -/
def materialize (registry : Registry) (target : ClassType) (projection : List FieldPath) (rows : List Row) :
    Except Error (List Record) :=
  rows.mapM (registry.materializeRow target projection)

end ObjectStore.Registry
