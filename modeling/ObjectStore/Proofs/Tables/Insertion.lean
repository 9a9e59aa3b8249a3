import ObjectStore.Proofs.Dml.Requests
import ObjectStore.Proofs.Tables.Selection
import ObjectStore.Proofs.Tables.Transactions

/-!
# Rows of insertions

The request that a text is says which row the text puts into a table. The row has in each column the value that the request gives under the name of the column, and nothing where it gives none. All other rows and all other tables stay as they are.
-/

namespace ObjectStore

namespace Dml

/-- Columns with literals for fields are named like the fields, and the literals come to the cells of their values. -/
theorem columns_of_fields? {assigned : List (String × Sql.Expr)} {fields : List (String × Value)}
    (h : fields? assigned = some fields) :
    assigned.map Prod.fst = fields.map Prod.fst ∧
      ∀ scope, Tables.evalAll scope (assigned.map Prod.snd) = fields.map (·.2.cell) := by
  induction assigned generalizing fields with
  | nil =>
    cases h
    exact ⟨rfl, fun _ => rfl⟩
  | cons a assigned ih =>
    rw [fields?, List.mapM_cons] at h
    obtain ⟨field, hfield, h⟩ := Option.bind_eq_some_iff.1 h
    obtain ⟨value, hvalue, rfl⟩ := Option.map_eq_some_iff.1 hfield
    obtain ⟨rest, hrest, h⟩ := Option.bind_eq_some_iff.1 h
    cases h
    obtain ⟨hnames, hcells⟩ := ih hrest
    refine ⟨by rw [List.map_cons, List.map_cons, hnames], fun scope => ?_⟩
    rw [List.map_cons, Tables.evalAll, Sql.Expr.eval_of_value? hvalue, hcells]
    rfl

theorem read?_of_insert {sql table : String} {fields : List (String × Value)}
    (h : Request.read? sql = some (.insert table fields)) :
    ∃ row, Sql.Statement.read? sql = some (.insert false table (fields.map Prod.fst) [row]) ∧
      ∀ scope, Tables.evalAll scope row = fields.map (·.2.cell) := by
  obtain ⟨s, hread, columns, row, rfl, hlength, hfields⟩ := Request.says_of_read? h
  obtain ⟨hnames, hcells⟩ := columns_of_fields? hfields
  rw [List.map_fst_zip hlength.le] at hnames
  rw [List.map_snd_zip hlength.ge] at hcells
  exact ⟨row, hnames ▸ hread, hcells⟩

end Dml

namespace Tables

theorem Database.find?_congr {database other : Database} (h : database.tables = other.tables) (name : String) :
    database.find? name = other.find? name := by
  rw [find?, h, ← find?]

theorem Database.find?_withRows {database : Database} {name : String} {table : Table}
    (h : database.find? name = some table) (rows : List Row) :
    (database.withRows table.name rows).find? name = some { table with rows } := by
  have hsame : Text.sameName table.name table.name = true := Text.sameName_self _
  have hnames : (fun other : Table => Text.sameName other.name name) ∘ (fun other =>
      if Text.sameName other.name table.name then { other with rows } else other) =
        fun other => Text.sameName other.name name := by
    funext other
    dsimp only [Function.comp]
    split <;> rfl
  rw [find?] at h ⊢
  rw [withRows, List.find?_map, hnames, h, Option.map_some, if_pos hsame]

theorem requireTable_eq_ok_iff {database : Database} {written : String} {table : Table} :
    requireTable database written = .ok table ↔ database.find? written = some table := by
  rw [requireTable]
  cases database.find? written with
  | none => exact ⟨(fun h => by cases h), (fun h => by cases h)⟩
  | some found => rw [Except.ok.injEq, Option.some_inj]

theorem requireColumns_eq_ok_iff {table : Table} {written : String} {names : List String} :
    requireColumns table written names = .ok () ↔ ∀ name ∈ names, Named table.columns name := by
  induction names with
  | nil => exact ⟨fun _ _ hname => absurd hname List.not_mem_nil, fun _ => rfl⟩
  | cons name names ih =>
    rw [requireColumns, List.forall_mem_cons, Named]
    split
    · next hname => rw [ih, hname, eq_self_iff_true, true_and]
    · next hname => exact ⟨(fun h => by cases h), fun h => absurd h.1 hname⟩

theorem changed_eq_ok_iff {database after : Database} {table : Table} {result : Except Refusal (List Row × Nat)}
    {answer : Answer} : changed database table result = (.ok answer, after) ↔
      ∃ rows count, result = .ok (rows, count) ∧ after = { database.withRows table.name rows with changes := count } ∧
        answer = ⟨[], after⟩ := by
  rcases result with refusal | ⟨rows, count⟩
  · refine ⟨fun h => ?_, fun h => ?_⟩
    · cases h
    · obtain ⟨rows, count, h, -⟩ := h
      cases h
  · constructor
    · intro h
      cases h
      exact ⟨rows, count, rfl, rfl, rfl⟩
    · rintro ⟨rows, count, ⟨⟩, rfl, rfl⟩
      rfl

/-- An insertion that succeeds puts a row with the fields of the request at the end of its table, in which no other row clashes with it. -/
theorem changedRows_of_insertion {sql written : String} {fields : List (String × Value)}
    (hread : Dml.Request.read? sql = some (.insert written fields)) {database after : Database} {count : Nat}
    (h : changedRows sql database = (.ok count, after)) :
    ∃ table, database.find? written = some table ∧ (∀ field ∈ fields, Named table.columns field.1) ∧
      clash? table table.rows (newRow table (fields.map Prod.fst) (fields.map (·.2.cell))) = none ∧
      after = { database.withRows table.name
        (table.rows ++ [newRow table (fields.map Prod.fst) (fields.map (·.2.cell))]) with changes := 1 } := by
  obtain ⟨row, hstatement, hcells⟩ := Dml.read?_of_insert hread
  obtain ⟨tokens, hchanged⟩ := changedRows_eq_ok_iff hstatement
  obtain ⟨answer, hrun, -⟩ := hchanged.1 h
  rw [Database.run] at hrun
  split at hrun
  · cases hrun
  · next table hcheck =>
    rw [checkInsert] at hcheck
    obtain ⟨found, htable, hcheck⟩ := bind_eq_ok.1 hcheck
    obtain ⟨⟨⟩, hnames, hcheck⟩ := bind_eq_ok.1 hcheck
    obtain ⟨_, -, hcheck⟩ := bind_eq_ok.1 hcheck
    cases hcheck
    obtain ⟨rows, number, hinserted, rfl, -⟩ := changed_eq_ok_iff.1 hrun
    rw [List.map_singleton, hcells, insertRows] at hinserted
    split at hinserted
    · cases hinserted
    · next hclash =>
      cases hinserted
      exact ⟨table, requireTable_eq_ok_iff.1 htable, List.forall_mem_map.1 (requireColumns_eq_ok_iff.1 hnames), hclash, rfl⟩

theorem find?_of_insertion {sql written : String} {fields : List (String × Value)} {database after : Database}
    {count : Nat} {table : Table} (hread : Dml.Request.read? sql = some (.insert written fields))
    (htable : database.find? written = some table) (h : changedRows sql database = (.ok count, after)) :
    after.find? written =
      some { table with rows := table.rows ++ [newRow table (fields.map Prod.fst) (fields.map (·.2.cell))] } := by
  obtain ⟨found, hfound, -, -, rfl⟩ := changedRows_of_insertion hread h
  rw [htable] at hfound
  cases hfound
  exact Database.find?_withRows htable _

/-! ### The cells of the new row -/

/-- The names of the fields are different, whatever their case. -/
def DistinctNames (fields : List (String × Value)) : Prop :=
  fields.Pairwise fun a b => Text.sameName a.1 b.1 = false

theorem DistinctNames.eq_of_sameName {fields : List (String × Value)} (h : DistinctNames fields)
    {a b : String × Value} (ha : a ∈ fields) (hb : b ∈ fields) (hsame : Text.sameName a.1 b.1 = true) : a = b := by
  induction h with
  | nil => cases ha
  | cons hfirst _ ih =>
    rcases List.mem_cons.1 ha with rfl | ha' <;> rcases List.mem_cons.1 hb with rfl | hb'
    · rfl
    · rw [hfirst b hb'] at hsame
      cases hsame
    · have hsymm : Text.sameName b.1 a.1 = true := Text.sameName_symm hsame
      rw [hfirst a ha'] at hsymm
      cases hsymm
    · exact ih ha' hb'

/-- The cell of a column in the row of new fields. -/
def newCell (fields : List (String × Value)) (column : Column) : Cell :=
  match fields.find? fun field => Text.sameName field.1 column.name with
  | some field => column.affinity.store field.2.cell
  | none => .null

theorem newRow_eq (table : Table) (fields : List (String × Value)) :
    newRow table (fields.map Prod.fst) (fields.map (·.2.cell)) = table.columns.map (newCell fields) := by
  refine List.map_congr_left fun column _ => ?_
  rw [List.zip_map', List.find?_map, newCell]
  simp only [Function.comp_def]
  cases fields.find? fun field => Text.sameName field.1 column.name <;> rfl

theorem newCell_of_mem {fields : List (String × Value)} {column : Column} {field : String × Value}
    (hdistinct : DistinctNames fields) (hfield : field ∈ fields) (hname : Text.sameName field.1 column.name = true) :
    newCell fields column = column.affinity.store field.2.cell := by
  rw [newCell]
  cases hfound : fields.find? fun field => Text.sameName field.1 column.name with
  | none =>
    have hunnamed := List.find?_eq_none.1 hfound field hfield
    exact absurd hname hunnamed
  | some other =>
    have hother : Text.sameName other.1 column.name = true := by simpa using List.find?_some hfound
    have hsame : Text.sameName other.1 field.1 = true := Text.sameName_trans hother (Text.sameName_symm hname)
    rw [hdistinct.eq_of_sameName (List.mem_of_find?_eq_some hfound) hfield hsame]

theorem newCell_of_unnamed {fields : List (String × Value)} {column : Column}
    (h : ∀ field ∈ fields, Text.sameName field.1 column.name = false) : newCell fields column = .null := by
  have hnone : fields.find? (fun field => Text.sameName field.1 column.name) = none := by simpa using h
  rw [newCell, hnone]

theorem DistinctNames.present {record : Record} (h : DistinctNames record.fields) : DistinctNames (Dml.present record) :=
  List.Pairwise.sublist List.filter_sublist h

/-- The row that a record is inserted as. -/
def rowOf (table : Table) (record : Record) : Row :=
  newRow table ((Dml.present record).map Prod.fst) ((Dml.present record).map (·.2.cell))

/-- A field of a record that is inserted is found in the column of its name. A field without a value is left out of the insertion, and its column has nothing. -/
theorem cellIn_rowOf {table : Table} {record : Record} {field : String × Value} {column : Column}
    (hdistinct : DistinctNames record.fields) (hfield : field ∈ record.fields)
    (hcolumn : table.columns.find? (fun column => Text.sameName column.name field.1) = some column)
    (hstore : column.affinity.store field.2.cell = field.2.cell) :
    cellIn table.columns (rowOf table record) field.1 = some (column.affinity, field.2.cell) := by
  have hname : Text.sameName column.name field.1 = true := by simpa using List.find?_some hcolumn
  rw [rowOf, newRow_eq, cellIn_map hcolumn]
  refine congrArg (fun cell => some (column.affinity, cell)) ?_
  cases hnull : field.2.isNull with
  | false =>
    have hpresent : field ∈ Dml.present record := List.mem_filter.2 ⟨hfield, by rw [hnull]; rfl⟩
    rw [newCell_of_mem hdistinct.present hpresent (Text.sameName_symm hname), hstore]
  | true =>
    -- A field that the column answers to would be this one, which is left out.
    have hunnamed : ∀ other ∈ Dml.present record, Text.sameName other.1 column.name = false := by
      intro other hother
      rw [Text.sameName_congr hname, Bool.eq_false_iff]
      intro hsame
      obtain ⟨hmem, hvalue⟩ := List.mem_filter.1 hother
      rw [hdistinct.eq_of_sameName hmem hfield hsame, hnull] at hvalue
      cases hvalue
    rw [newCell_of_unnamed hunnamed]
    cases hvalue : field.2 with
    | null => rfl
    | _ =>
      rw [hvalue] at hnull
      cases hnull

end Tables

end ObjectStore
