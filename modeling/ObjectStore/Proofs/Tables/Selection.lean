import ObjectStore.Proofs.Query.Filters
import ObjectStore.Proofs.Tables.Equality
import ObjectStore.Tables.Database

/-!
# Selections from one table

A selection of columns by an equality, without joins, an order and bounds, returns one row for each row of the table in which the column has that value, in their order. It is refused only if it refers to a column that the table does not have. A text is found as it is by a column that would store it as it is.
-/

namespace ObjectStore

/-! ### Literals -/

theorem Sql.Expr.eval_of_value? {e : Sql.Expr} {value : Value} (h : e.value? = some value) (scope : Tables.Scope) :
    Tables.eval scope e = (.none, value.cell) := by
  fun_induction value? e generalizing value with
  | case7 left right a b hb ha hleft hright =>
    cases h
    rw [Tables.eval, hleft ha, hright hb]
    rfl
  | case8 => cases h
  | case9 => cases h
  | _ =>
    cases h
    rfl

theorem Sql.Expr.references_of_value? {e : Sql.Expr} {value : Value} (h : e.value? = some value) :
    Tables.references e = [] := by
  fun_induction value? e generalizing value with
  | case7 left right a b hb ha hleft hright => rw [Tables.references, hleft ha, hright hb, List.append_nil]
  | case8 => cases h
  | case9 => cases h
  | _ => rfl

namespace Tables

/-! ### The rows of one table -/

/-- The rows of one table as a scope. -/
abbrev scopeOf (written : String) (columns : List Column) (row : Row) : Scope := [⟨written, columns, row⟩]

theorem find_scopeOf (written : String) (columns : List Column) (row : Row) (name : String) :
    (scopeOf written columns row).find (some written) name = (cellIn columns row name).toList := by
  have hsame : Text.sameName written written = true := Text.sameName_self _
  rw [Scope.find, List.filterMap_cons, Option.all_some, if_pos hsame]
  cases cellIn columns row name <;> rfl

theorem cell_scopeOf (written : String) (columns : List Column) (row : Row) (name : String) :
    (scopeOf written columns row).cell (some written) name = (cellIn columns row name).getD (.none, .null) := by
  rw [Scope.cell, find_scopeOf]
  cases cellIn columns row name <;> rfl

/-! ### Columns -/

/-- The cell that a row with a cell for each column has in the first column with a name. -/
theorem cellIn_map {columns : List Column} {name : String} {column : Column}
    (h : columns.find? (fun column => Text.sameName column.name name) = some column) (cell : Column → Cell) :
    cellIn columns (columns.map cell) name = some (column.affinity, cell column) := by
  induction columns with
  | nil => cases h
  | cons first columns ih =>
    rw [List.map_cons, cellIn]
    rw [List.find?_cons] at h
    split at h
    · next hname =>
      cases h
      rw [if_pos hname]
    · next hname =>
      rw [if_neg (Bool.eq_false_iff.1 hname)]
      exact ih h

/-- A table has a column of a name. -/
def Named (columns : List Column) (name : String) : Prop :=
  columns.any (fun column => Text.sameName column.name name) = true

theorem isSome_cellIn_blankRow {columns : List Column} {name : String} :
    (cellIn columns (blankRow columns) name).isSome = true ↔ Named columns name := by
  rw [blankRow, Named]
  induction columns with
  | nil => simp [cellIn]
  | cons first columns ih =>
    rw [List.map_cons, cellIn, List.any_cons]
    cases hname : Text.sameName first.name name with
    | true => simp
    | false => rwa [if_neg Bool.false_ne_true, Bool.false_or]

theorem checkReferences_columns (written : String) (tokens : List Sql.Placed) (clause : Option String)
    {columns : List Column} {row : Row} {names : List String}
    (h : ∀ name ∈ names, (cellIn columns row name).isSome = true) :
    checkReferences (scopeOf written columns row) tokens clause (names.map fun name => (some written, name)) = .ok () := by
  induction names with
  | nil => rfl
  | cons name names ih =>
    obtain ⟨cell, hcell⟩ := Option.isSome_iff_exists.1 (h name List.mem_cons_self)
    rw [List.map_cons, checkReferences, find_scopeOf, hcell]
    exact ih fun other hother => h other (List.mem_cons_of_mem _ hother)

theorem referencesOfAll_columns (written : String) (names : List String) :
    referencesOfAll (names.map fun name => .column (some written) name) = names.map fun name => (some written, name) := by
  induction names with
  | nil => rfl
  | cons name names ih =>
    rw [List.map_cons, referencesOfAll, ih]
    rfl

theorem evalAll_columns (written : String) (columns : List Column) (row : Row) (names : List String) :
    evalAll (scopeOf written columns row) (names.map fun name => .column (some written) name) =
      names.map fun name => ((cellIn columns row name).getD (.none, .null)).2 := by
  induction names with
  | nil => rfl
  | cons name names ih => rw [List.map_cons, evalAll, ih, eval, cell_scopeOf, List.map_cons]

/-! ### Finding a text -/

/-- Whether a cell is a number. -/
def isNumber : Cell → Bool
  | .integer _ => true
  | .real _ => true
  | _ => false

theorem isNumber_of_numberIn? {s : String} {cell : Cell} (h : numberIn? s = some cell) : isNumber cell = true := by
  rw [numberIn?] at h
  dsimp only at h
  split at h
  · cases h
    rfl
  · obtain ⟨d, -, rfl⟩ := Option.map_eq_some_iff.1 h
    rfl

theorem isNumber_preferInteger {cell : Cell} (h : isNumber cell = true) : isNumber (preferInteger cell) = true := by
  cases cell with
  | real d =>
    rw [preferInteger]
    split
    · split <;> rfl
    · rfl
  | _ => exact h

theorem isNumber_preferReal {cell : Cell} (h : isNumber cell = true) : isNumber (preferReal cell) = true := by
  cases cell with
  | null => cases h
  | text s => cases h
  | blob bytes => cases h
  | integer n => rfl
  | real d => rfl

/-- What would be turned into a number is not stored as it is. -/
theorem preferNumber_text {s : String} {convert : Cell → Cell}
    (hconvert : ∀ cell, isNumber cell = true → isNumber (convert cell) = true)
    (h : convert (preferNumber (.text s)) = .text s) : preferNumber (.text s) = .text s := by
  rw [preferNumber] at h ⊢
  cases hnumber : numberIn? s with
  | none => rfl
  | some cell =>
    rw [hnumber, Option.getD_some] at h
    have hconverted := hconvert cell (isNumber_of_numberIn? hnumber)
    rw [h] at hconverted
    cases hconverted

/-- A column that stores a text as it is compares its cells with the text as they are. -/
theorem align_text {affinity : Affinity} {s : String} (h : affinity.store (.text s) = .text s) (cell : Cell) :
    affinity.align .none cell (.text s) = (cell, .text s) := by
  cases affinity with
  | text => rfl
  | none => rfl
  | integer => exact congrArg (cell, ·) (preferNumber_text (fun _ => isNumber_preferInteger) h)
  | numeric => exact congrArg (cell, ·) (preferNumber_text (fun _ => isNumber_preferInteger) h)
  | real => exact congrArg (cell, ·) (preferNumber_text (fun _ => isNumber_preferReal) h)

theorem compareCells_text {affinity : Affinity} {s : String} (h : affinity.store (.text s) = .text s) (cell : Cell) :
    compareCells .equal (affinity, cell) (.none, .text s) = some true ↔ cell = .text s := by
  have hequal : Comparison.equal.operator? = some .equal := rfl
  rw [Comparison.compareCells_eq_test hequal, Comparison.test, comparedOrder, align_text h]
  cases cell with
  | text t =>
    change some (textOrder t s == .eq) = some true ↔ _
    rw [Option.some_inj, beq_iff_eq, textOrder_eq_iff, Cell.text.injEq]
  | _ =>
    constructor
    · intro hsame
      cases hsame
    · intro heq
      cases heq

theorem cellIn_affinity {columns : List Column} {row : Row} {name : String} {affinity : Affinity} {cell : Cell}
    {column : Column} (hcolumn : columns.find? (fun column => Text.sameName column.name name) = some column)
    (h : cellIn columns row name = some (affinity, cell)) : affinity = column.affinity := by
  induction columns generalizing row with
  | nil => cases hcolumn
  | cons first columns ih =>
    cases row with
    | nil => cases h
    | cons c row =>
      rw [cellIn] at h
      rw [List.find?_cons] at hcolumn
      split at hcolumn
      · next hname =>
        rw [if_pos hname] at h
        cases hcolumn
        cases h
        rfl
      · next hname =>
        rw [if_neg (Bool.eq_false_iff.1 hname)] at h
        exact ih hcolumn h

theorem passes_text (written : String) {name : String} {columns : List Column} {column : Column} {s : String} {literal : Sql.Expr}
    (hcolumn : columns.find? (fun column => Text.sameName column.name name) = some column)
    (hstore : column.affinity.store (.text s) = .text s) (hliteral : ∀ scope, eval scope literal = (.none, .text s))
    (row : Row) :
    passes (scopeOf written columns row) (some (.compare .equal (.column (some written) name) literal)) = true ↔
      (cellIn columns row name).map Prod.snd = some (.text s) := by
  rw [passes, eval, Truth.truthOf_toCell, hliteral, eval, cell_scopeOf, beq_iff_eq]
  cases hcell : cellIn columns row name with
  | none =>
    constructor
    · intro hpasses
      cases hpasses
    · intro htext
      cases htext
  | some found =>
    obtain ⟨affinity, cell⟩ := found
    obtain rfl := cellIn_affinity hcolumn hcell
    rw [Option.getD_some, compareCells_text hstore, Option.map_some, Option.some_inj]

/-! ### The rows of a selection -/

theorem sorted_nil (scopes : List Scope) : sorted [] scopes = scopes :=
  List.mergeSort_of_pairwise (List.pairwise_of_forall fun _ _ => rfl)

/-- A selection of columns by an equality with a text. -/
def selectByText (written : String) (names : List String) (key : String) (literal : Sql.Expr) : Sql.Select where
  items := names.map fun name => .column (some written) name
  source := some ⟨written, []⟩
  filter := some (.compare .equal (.column (some written) key) literal)
  order := []
  paging := none

theorem runSelect_byText (tokens : List Sql.Placed) {database : Database} {table : Table} {written key : String}
    {names : List String} {literal : Sql.Expr} (htable : database.find? written = some table)
    (hnames : ∀ name ∈ names, ∃ column, table.columns.find? (fun column => Text.sameName column.name name) = some column)
    (hkey : ∃ column, table.columns.find? (fun column => Text.sameName column.name key) = some column)
    (hliteral : references literal = []) :
    runSelect database tokens (selectByText written names key literal) =
      .ok ((table.rows.filter fun row =>
        passes (scopeOf written table.columns row)
          (some (.compare .equal (.column (some written) key) literal))).map fun row =>
            names.map fun name => ((cellIn table.columns row name).getD (.none, .null)).2) := by
  have hblank : ∀ {name}, (∃ column, table.columns.find? (fun column => Text.sameName column.name name) = some column) →
      (cellIn table.columns (blankRow table.columns) name).isSome = true := by
    rintro name ⟨column, hcolumn⟩
    rw [blankRow, cellIn_map hcolumn, Option.isSome_some]
  have hcount : (selectByText written names key literal).items.any isCount = false := by
    rw [selectByText, List.any_map]
    exact List.any_eq_false.2 fun _ _ => Bool.false_ne_true
  have hcheck : checkSelect [blank written table] tokens (selectByText written names key literal) [] = .ok () := by
    have hitems := checkReferences_columns written tokens (some "SELECT")
      fun name hname => hblank (hnames name hname)
    have hfilter := checkReferences_columns written tokens (some "WHERE")
      (List.forall_mem_singleton.2 (hblank hkey))
    rw [checkSelect, selectByText, referencesOfAll_columns]
    dsimp only [Option.toList_some, referencesOfAll, references]
    rw [hliteral]
    refine bind_eq_ok.2 ⟨(), hitems, bind_eq_ok.2 ⟨(), hfilter, rfl⟩⟩
  have hrun : runSelect database tokens (selectByText written names key literal) =
      .ok (resultRows (selectByText written names key literal)
        (selectScopes { table with name := written } [] (selectByText written names key literal).filter)) := by
    rw [runSelect, selectByText]
    refine bind_eq_ok.2 ⟨table, by rw [requireTable, htable], bind_eq_ok.2 ⟨[], rfl, bind_eq_ok.2 ⟨(), hcheck, rfl⟩⟩⟩
  rw [hrun, resultRows, hcount, if_neg Bool.false_ne_true]
  dsimp only [selectByText, paged, selectScopes, joinTables]
  rw [sorted_nil, List.filter_map, List.map_map]
  refine congrArg Except.ok (List.map_congr_left fun row _ => ?_)
  exact evalAll_columns written table.columns row names

end Tables

end ObjectStore
