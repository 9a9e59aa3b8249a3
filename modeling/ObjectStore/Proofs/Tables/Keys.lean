import ObjectStore.Proofs.Tables.Equality
import ObjectStore.Proofs.Tables.Insertion

/-!
# Rows with a key

A statement for a record restricts its rows to those that have a value in one column. Which rows these are depends on nothing but the cell in that column, and a row whose column stores the value as it is is one of them. The question for a row with a key is answered with the identifier of the first such row, if there is one.
-/

namespace ObjectStore

/-- The values that records are told apart by: texts, integers and truth values. -/
def Value.Identifies : Value → Prop
  | string _ => True
  | integer _ => True
  | boolean _ => True
  | _ => False

namespace Tables

/-! ### Rows with a key -/

/-- Whether a row has a cell in a column, as an equality in a statement sees it. -/
def holds (columns : List Column) (column : String) (cell : Cell) (row : Row) : Bool :=
  compareCells .equal ((cellIn columns row column).getD (.none, .null)) (.none, cell) == some true

variable {columns : List Column} {row : Row} {name column written : String} {cell : Cell}

theorem find_unqualified (written : String) (columns : List Column) (row : Row) (name : String) :
    (scopeOf written columns row).find none name = (cellIn columns row name).toList := by
  rw [Scope.find, List.filterMap_cons, Option.all_none, if_pos rfl]
  cases cellIn columns row name <;> rfl

theorem passes_key {literal : Sql.Expr} (hliteral : ∀ scope, eval scope literal = (.none, cell)) (written : String)
    (columns : List Column) (row : Row) :
    passes (scopeOf written columns row) (some (Dml.keyCondition column literal)) = holds columns column cell row := by
  rw [Dml.keyCondition, passes, eval, Truth.truthOf_toCell, hliteral, eval, Scope.cell, find_unqualified, holds]
  cases cellIn columns row column <;> rfl

theorem compareCells_self {affinity : Affinity} {value : Value} (hvalue : value.Identifies)
    (hstore : affinity.store value.cell = value.cell) :
    compareCells .equal (affinity, value.cell) (.none, value.cell) = some true := by
  have hinteger : ∀ n, affinity.store (.integer n) = .integer n →
      compareCells .equal (affinity, .integer n) (.none, .integer n) = some true := by
    intro n h
    have hsame : cellOrder (.integer n) (.integer n) = .eq := by simp [cellOrder]
    cases affinity with
    | text => cases h
    | real => cases h
    | _ =>
      change some (cellOrder (.integer n) (.integer n) == .eq) = some true
      rw [hsame]
      rfl
  cases value with
  | string s => exact (compareCells_text hstore _).2 rfl
  | integer n => exact hinteger n hstore
  | boolean b => cases b <;> exact hinteger _ hstore
  | _ => cases hvalue

/-- A row holds the key that its column stores as it is. -/
theorem holds_of_cellIn {affinity : Affinity} {value : Value} (hvalue : value.Identifies)
    (hstore : affinity.store value.cell = value.cell) (hcell : cellIn columns row column = some (affinity, value.cell)) :
    holds columns column value.cell row = true := by
  rw [holds, hcell, Option.getD_some, compareCells_self hvalue hstore]
  rfl

/-! ### The question for a row -/

theorem checkReferences_unqualified_iff (written : String) (tokens : List Sql.Placed) (clause : Option String)
    {names : List String} :
    checkReferences [⟨written, columns, blankRow columns⟩] tokens clause (names.map fun name => (none, name)) = .ok () ↔
      ∀ name ∈ names, Named columns name := by
  induction names with
  | nil => exact ⟨fun _ _ hname => absurd hname List.not_mem_nil, fun _ => rfl⟩
  | cons name names ih =>
    rw [List.map_cons, checkReferences, find_unqualified, List.forall_mem_cons, ← isSome_cellIn_blankRow, ← ih]
    cases cellIn columns (blankRow columns) name <;> simp

/-- The question for a row with a key. -/
def keyQuestion (written column : String) (literal : Sql.Expr) : Sql.Select where
  items := [.column none idColumn]
  source := some ⟨written, []⟩
  filter := some (Dml.keyCondition column literal)
  order := []
  paging := some ⟨1, none⟩

theorem checkSelect_keyQuestion_iff {literal : Sql.Expr} (hliteral : references literal = []) (table : Table)
    (written column : String) (tokens : List Sql.Placed) :
    checkSelect [blank written table] tokens (keyQuestion written column literal) [] = .ok () ↔
      Named table.columns idColumn ∧ Named table.columns column := by
  have hone : ∀ clause name, checkReferences [blank written table] tokens clause [(none, name)] = .ok () ↔
      Named table.columns name := by
    intro clause name
    rw [← List.forall_mem_singleton (p := Named table.columns), ← checkReferences_unqualified_iff written tokens clause]
    rfl
  have hfilter : referencesOfAll (keyQuestion written column literal).filter.toList = [(none, column)] := by
    change ([(none, column)] ++ references literal) ++ [] = _
    rw [hliteral]
    rfl
  rw [checkSelect, bind_eq_ok, hfilter]
  constructor
  · rintro ⟨⟨⟩, hitems, h⟩
    obtain ⟨⟨⟩, hkey, -⟩ := bind_eq_ok.1 h
    exact ⟨(hone _ _).1 hitems, (hone _ _).1 hkey⟩
  · rintro ⟨hid, hkey⟩
    exact ⟨(), (hone _ _).2 hid, bind_eq_ok.2 ⟨(), (hone _ _).2 hkey, rfl⟩⟩

/-- The question is refused only if a column is missing, and is answered with the identifier of the first row that has the key. -/
theorem runSelect_keyQuestion_iff (tokens : List Sql.Placed) {database : Database} {written : String} {literal : Sql.Expr}
    {value : Value} (hliteral : literal.value? = some value) {rows : List Row} :
    runSelect database tokens (keyQuestion written column literal) = .ok rows ↔
      ∃ table, database.find? written = some table ∧ Named table.columns idColumn ∧ Named table.columns column ∧
        rows = ((table.rows.filter (holds table.columns column value.cell)).take 1).map fun row =>
          [((cellIn table.columns row idColumn).getD (.none, .null)).2] := by
  have hpasses : ∀ table : Table, (fun row => passes (scopeOf written table.columns row)
      (some (Dml.keyCondition column literal))) = holds table.columns column value.cell := fun table =>
    funext fun row => passes_key (Sql.Expr.eval_of_value? hliteral) written table.columns row
  have hrows : ∀ table : Table, resultRows (keyQuestion written column literal)
      (selectScopes { table with name := written } [] (keyQuestion written column literal).filter) =
        ((table.rows.filter (holds table.columns column value.cell)).take 1).map fun row =>
          [((cellIn table.columns row idColumn).getD (.none, .null)).2] := by
    intro table
    have hcell : ∀ row, (scopeOf written table.columns row).cell none idColumn =
        (cellIn table.columns row idColumn).getD (.none, .null) := by
      intro row
      rw [Scope.cell, find_unqualified]
      cases cellIn table.columns row idColumn <;> rfl
    change (((sorted [] ((table.rows.map fun row => scopeOf written table.columns row).filter
      (passes · (some (Dml.keyCondition column literal))))).drop 0).take 1).map
        (fun scope => [(scope.cell none idColumn).2]) = _
    rw [sorted_nil, List.drop_zero, List.filter_map, ← List.map_take, List.map_map, ← hpasses]
    exact List.map_congr_left fun row _ => congrArg (fun cell : Affinity × Cell => [cell.2]) (hcell row)
  have hreferences := Sql.Expr.references_of_value? hliteral
  rw [runSelect]
  change requireTable database written >>= (fun table => checkSelect [blank written table] tokens _ [] >>= fun _ =>
    .ok (resultRows (keyQuestion written column literal)
      (selectScopes { table with name := written } [] (keyQuestion written column literal).filter))) = .ok rows ↔ _
  simp only [bind_eq_ok, requireTable_eq_ok_iff, hrows]
  constructor
  · rintro ⟨table, htable, ⟨⟩, hcheck, ⟨⟩⟩
    obtain ⟨hid, hkey⟩ := (checkSelect_keyQuestion_iff hreferences table written column tokens).1 hcheck
    exact ⟨table, htable, hid, hkey, rfl⟩
  · rintro ⟨table, htable, hid, hkey, rfl⟩
    exact ⟨table, htable, (), (checkSelect_keyQuestion_iff hreferences table written column tokens).2 ⟨hid, hkey⟩, rfl⟩

/-- A request for a row is answered if its columns exist, and finds a row if one has the key. -/
theorem queryRows_of_find {sql written column : String} {key : Value}
    (hread : Dml.Request.read? sql = some (.find written column key)) {database after : Database} {rows : List Row} :
    queryRows sql database = (.ok rows, after) ↔ after = database ∧
      ∃ table, database.find? written = some table ∧ Named table.columns idColumn ∧ Named table.columns column ∧
        rows = ((table.rows.filter (holds table.columns column key.cell)).take 1).map fun row =>
          [((cellIn table.columns row idColumn).getD (.none, .null)).2] := by
  obtain ⟨s, hstatement, literal, rfl, hvalue⟩ := Dml.Request.says_of_read? hread
  obtain ⟨tokens, hrun⟩ := runFirst_eq hstatement
  rw [← runSelect_keyQuestion_iff tokens hvalue, queryRows, hrun, Database.run, ← keyQuestion]
  cases runSelect database tokens (keyQuestion written column literal) with
  | error refusal =>
    refine ⟨fun h => ?_, fun h => ?_⟩
    · cases h
    · cases h.2
  | ok found =>
    constructor
    · intro h
      cases h
      exact ⟨rfl, rfl⟩
    · rintro ⟨rfl, ⟨⟩⟩
      rfl

end Tables

end ObjectStore
