import ObjectStore.Proofs.Tables.Keys

/-!
# Updates that have been made

An update by a key writes the same values into every row that has the key, and leaves the key as it is. A row that was written once is not changed when it is written again. The rows of a table after an update, and a new row among rows without its key, can stand next to each other, so the same update succeeds once more and leaves all rows as they are.
-/

namespace ObjectStore

namespace Tables

variable {columns : List Column} {row : Row} {name column written : String} {cell : Cell}

/-! ### Writing rows -/

/-- The cell of a column after fields were written; of several fields for the column the last one counts. -/
def writtenCell (fields : List (String × Value)) (column : Column) (cell : Cell) : Cell :=
  match fields.reverse.find? fun field => Text.sameName field.1 column.name with
  | some field => column.affinity.store field.2.cell
  | none => cell

def overwrite (columns : List Column) (fields : List (String × Value)) (row : Row) : Row :=
  (columns.zip row).map fun entry => writtenCell fields entry.1 entry.2

theorem overwrite_cons (first : Column) (columns : List Column) (fields : List (String × Value)) (cell : Cell) (row : Row) :
    overwrite (first :: columns) fields (cell :: row) = writtenCell fields first cell :: overwrite columns fields row := rfl

variable {fields : List (String × Value)}

theorem eq_map_of_fields? {assignments : List (String × Sql.Expr)} (h : Dml.fields? assignments = some fields) :
    fields = assignments.map (fun a => (a.1, a.2.value?.getD .null)) ∧
      ∀ a ∈ assignments, a.2.value? = some (a.2.value?.getD .null) := by
  induction assignments generalizing fields with
  | nil =>
    cases h
    exact ⟨rfl, fun _ ha => absurd ha List.not_mem_nil⟩
  | cons a assignments ih =>
    rw [Dml.fields?, List.mapM_cons] at h
    obtain ⟨field, hfield, h⟩ := Option.bind_eq_some_iff.1 h
    obtain ⟨value, hvalue, rfl⟩ := Option.map_eq_some_iff.1 hfield
    obtain ⟨rest, hrest, h⟩ := Option.bind_eq_some_iff.1 h
    cases h
    obtain ⟨rfl, hvalues⟩ := ih hrest
    refine ⟨?_, List.forall_mem_cons.2 ⟨?_, hvalues⟩⟩
    · rw [List.map_cons, hvalue]
      rfl
    · rw [hvalue]
      rfl

theorem assigned_eq {assignments : List (String × Sql.Expr)} (h : Dml.fields? assignments = some fields) (table : Table)
    (scope : Scope) (row : Row) : assigned table assignments scope row = overwrite table.columns fields row := by
  obtain ⟨rfl, hvalues⟩ := eq_map_of_fields? h
  refine List.map_congr_left fun entry _ => ?_
  rw [writtenCell, ← List.map_reverse, List.find?_map]
  simp only [Function.comp_def]
  cases hfound : assignments.reverse.find? fun a => Text.sameName a.1 entry.1.name with
  | none => simp
  | some a =>
    have ha := hvalues a (List.mem_reverse.1 (List.mem_of_find?_eq_some hfound))
    simp [Sql.Expr.eval_of_value? ha]

theorem writtenCell_writtenCell (fields : List (String × Value)) (column : Column) (cell : Cell) :
    writtenCell fields column (writtenCell fields column cell) = writtenCell fields column cell := by
  rw [writtenCell, writtenCell]
  cases fields.reverse.find? fun field => Text.sameName field.1 column.name <;> rfl

theorem overwrite_overwrite (columns : List Column) (fields : List (String × Value)) (row : Row) :
    overwrite columns fields (overwrite columns fields row) = overwrite columns fields row := by
  induction columns generalizing row with
  | nil => rfl
  | cons first columns ih =>
    cases row with
    | nil => rfl
    | cons cell row => rw [overwrite_cons, overwrite_cons, writtenCell_writtenCell, ih]

theorem writtenCell_of_unnamed {column : Column} (h : ∀ field ∈ fields, Text.sameName field.1 column.name = false)
    (cell : Cell) : writtenCell fields column cell = cell := by
  have hnone : fields.reverse.find? (fun field => Text.sameName field.1 column.name) = none := by
    simpa using h
  rw [writtenCell, hnone]

theorem cellIn_overwrite (h : ∀ field ∈ fields, Text.sameName field.1 name = false) (columns : List Column) (row : Row) :
    cellIn columns (overwrite columns fields row) name = cellIn columns row name := by
  induction columns generalizing row with
  | nil => rfl
  | cons first columns ih =>
    cases row with
    | nil => rfl
    | cons cell row =>
      rw [overwrite_cons, cellIn, ih, cellIn]
      cases hname : Text.sameName first.name name with
      | false => rfl
      | true =>
        have hunnamed : ∀ field ∈ fields, Text.sameName field.1 first.name = false := by
          intro field hfield
          rw [Text.sameName_congr hname, h field hfield]
        rw [writtenCell_of_unnamed hunnamed]

theorem holds_overwrite (h : ∀ field ∈ fields, Text.sameName field.1 column = false) (columns : List Column) (cell : Cell)
    (row : Row) : holds columns column cell (overwrite columns fields row) = holds columns column cell row := by
  rw [holds, cellIn_overwrite h, holds]

theorem overwrite_map (columns : List Column) (fields : List (String × Value)) (cell : Column → Cell) :
    overwrite columns fields (columns.map cell) = columns.map fun column => writtenCell fields column (cell column) := by
  induction columns with
  | nil => rfl
  | cons first columns ih => rw [List.map_cons, overwrite_cons, ih, List.map_cons]

/-- A new row has the values of its fields already. -/
theorem overwrite_newRow {all : List (String × Value)} (hdistinct : DistinctNames all) (hsubset : fields ⊆ all)
    (table : Table) :
    overwrite table.columns fields (newRow table (all.map Prod.fst) (all.map (·.2.cell))) =
      newRow table (all.map Prod.fst) (all.map (·.2.cell)) := by
  rw [newRow_eq, overwrite_map]
  refine List.map_congr_left fun column _ => ?_
  rw [writtenCell]
  cases hfound : fields.reverse.find? fun field => Text.sameName field.1 column.name with
  | none => rfl
  | some field =>
    have hname : Text.sameName field.1 column.name = true := by simpa using List.find?_some hfound
    exact (newCell_of_mem hdistinct (hsubset (List.mem_reverse.1 (List.mem_of_find?_eq_some hfound))) hname).symm

/-! ### Rows that stand next to each other -/

/-- No key column has the same cell in both rows. -/
def Apart (columns : List Column) (row other : Row) : Prop :=
  ∀ (position : Nat) (column : Column) (cell otherCell : Cell), columns[position]? = some column → column.isKey = true →
    row[position]? = some cell → other[position]? = some otherCell → cell ≠ .null → cellOrder otherCell cell ≠ .eq

theorem Apart.symm {other : Row} (h : Apart columns row other) : Apart columns other row := by
  intro position column cell otherCell hcolumn hkey hcell hother hvalue hsame
  by_cases hnull : otherCell = .null
  · subst hnull
    cases cell with
    | null => exact hvalue rfl
    | _ => simp [cellOrder, kindRank] at hsame
  · have hsymm := ((cellOrder_eq_iff hnull hvalue).1 hsame).symm
    exact h position column otherCell cell hcolumn hkey hother hcell hnull ((cellOrder_eq_iff hvalue hnull).2 hsymm)

theorem clashes_eq_false_iff {rows : List Row} {position : Nat} : clashes rows position cell = false ↔
    cell = .null ∨ ∀ row ∈ rows, ∀ other, row[position]? = some other → cellOrder other cell ≠ .eq := by
  have hany : ∀ row : Row, (row[position]?).any (fun other => cellOrder other cell == .eq) = false ↔
      ∀ other, row[position]? = some other → cellOrder other cell ≠ .eq := by
    intro row
    cases row[position]? <;> simp
  simp [clashes, hany, ← or_iff_not_imp_left]

theorem clash?_eq_none_iff {table : Table} {rows : List Row} :
    clash? table rows row = none ↔ ∀ other ∈ rows, Apart table.columns row other := by
  rw [clash?, Option.map_eq_none_iff, List.find?_eq_none]
  constructor
  · intro h other hother position column cell otherCell hcolumn hkey hcell hotherCell hvalue
    have hmem : ((column, cell), position) ∈ (table.columns.zip row).zipIdx :=
      List.mem_zipIdx_iff_getElem?.2 (List.getElem?_zip_eq_some.2 ⟨hcolumn, hcell⟩)
    have hfree := h _ hmem
    dsimp only at hfree
    rw [hkey, Bool.true_and, Bool.not_eq_true, clashes_eq_false_iff] at hfree
    exact (hfree.resolve_left hvalue) other hother otherCell hotherCell
  · rintro h ⟨⟨column, cell⟩, position⟩ hmem
    obtain ⟨hcolumn, hcell⟩ := List.getElem?_zip_eq_some.1 (List.mem_zipIdx_iff_getElem?.1 hmem)
    dsimp only
    cases hkey : column.isKey with
    | false => simp
    | true =>
      rw [Bool.true_and, Bool.not_eq_true, clashes_eq_false_iff, or_iff_not_imp_left]
      exact fun hvalue other hother otherCell hotherCell =>
        h other hother position column cell otherCell hcolumn hkey hcell hotherCell hvalue

/-! ### Updating the rows of a table -/

section Rows

variable {table : Table} {touches : Row → Bool} {change : Row → Row}

/-- The rows that a change touches have been changed, and they can stand where they are. -/
structure Settled (columns : List Column) (touches : Row → Bool) (change : Row → Row) (rows : List Row) : Prop where
  fixed : ∀ row ∈ rows, touches row = true → change row = row
  apart : rows.Pairwise fun row other => touches row = true ∨ touches other = true → Apart columns row other

/-- A new row among rows that the change does not touch is settled, if it has the changes already. -/
theorem Settled.of_insertion {rows : List Row} {row : Row} (hrows : ∀ other ∈ rows, touches other = false)
    (hfixed : change row = row) (hclash : clash? table rows row = none) :
    Settled table.columns touches change (rows ++ [row]) where
  fixed other hother htouches := by
    rcases List.mem_append.1 hother with hother | hother
    · rw [hrows other hother] at htouches
      cases htouches
    · rw [List.mem_singleton.1 hother, hfixed]
  apart := by
    rw [List.pairwise_append]
    refine ⟨List.Pairwise.imp_of_mem (fun hfirst hsecond _ => ?_) (List.pairwise_of_forall fun _ _ => trivial),
      List.pairwise_singleton .., fun other hother last hlast _ => ?_⟩
    · rintro (htouches | htouches)
      · rw [hrows _ hfirst] at htouches
        cases htouches
      · rw [hrows _ hsecond] at htouches
        cases htouches
    · rw [List.mem_singleton.1 hlast]
      exact (clash?_eq_none_iff.1 hclash other hother).symm

variable {assignments : List (String × Sql.Expr)} {filter : Option Sql.Expr}
  (hfilter : ∀ row, passes (scopeOf written table.columns row) filter = touches row)

include hfilter

theorem updateRows_of_untouched {done rest : List Row} (htouches : touches row = false) :
    updateRows table written assignments filter done (row :: rest) =
      updateRows table written assignments filter (done ++ [row]) rest := by
  have hpasses : passes (scopeOf written table.columns row) filter = false := by rw [hfilter, htouches]
  rw [updateRows]
  dsimp only
  rw [if_neg (Bool.eq_false_iff.1 hpasses)]

variable (hassigned : ∀ scope row, assigned table assignments scope row = change row)

include hassigned

theorem updateRows_of_touched {done rest : List Row} (htouches : touches row = true) :
    updateRows table written assignments filter done (row :: rest) =
      match clash? table (done ++ rest) (change row) with
      | some column => .error (uniqueRefusal table column)
      | none => (updateRows table written assignments filter (done ++ [change row]) rest).map
        fun result => (result.1, result.2 + 1) := by
  have hpasses : passes (scopeOf written table.columns row) filter = true := by rw [hfilter, htouches]
  rw [updateRows]
  dsimp only
  rw [if_pos hpasses, hassigned]
  rfl

/-- The rows that an update leaves are settled: each was checked against those before it as they are and those after it as they were. -/
theorem settled_of_updateRows (hkeeps : ∀ row, touches (change row) = touches row)
    (htwice : ∀ row, change (change row) = change row) {done rest rows : List Row} {count : Nat}
    (h : updateRows table written assignments filter done rest = .ok (rows, count)) :
    let updated := rest.map fun row => if touches row then change row else row
    rows = done ++ updated ∧ Settled table.columns touches change updated ∧
      ∀ row ∈ updated, touches row = true → ∀ earlier ∈ done, Apart table.columns row earlier := by
  induction rest generalizing done rows count with
  | nil =>
    cases h
    exact ⟨(List.append_nil done).symm, ⟨fun _ hrow => absurd hrow List.not_mem_nil, .nil⟩,
      fun _ hrow => absurd hrow List.not_mem_nil⟩
  | cons row rest ih =>
    rw [List.map_cons]
    cases htouches : touches row with
    | true =>
      rw [updateRows_of_touched hfilter hassigned htouches] at h
      split at h
      · cases h
      · next hclash =>
        rw [clash?_eq_none_iff, List.forall_mem_append] at hclash
        obtain ⟨⟨last, n⟩, hlast, heq⟩ := map_eq_ok.1 h
        cases heq
        obtain ⟨rfl, hsettled, hcross⟩ := ih hlast
        have hsettledRow : ∀ other ∈ rest.map (fun row => if touches row then change row else row),
            Apart table.columns (change row) other := by
          intro other hother
          cases hlater : touches other with
          | true => exact (hcross other hother hlater _ (List.mem_append_right _ List.mem_cons_self)).symm
          | false =>
            -- a row that is not touched after the update was not touched before, and is what it was
            obtain ⟨old, hold, rfl⟩ := List.mem_map.1 hother
            cases htouched : touches old with
            | true => simp [htouched, hkeeps] at hlater
            | false => simpa [htouched] using hclash.2 old hold
        refine ⟨by simp, ⟨?_, ?_⟩, ?_⟩
        · exact List.forall_mem_cons.2 ⟨fun _ => htwice row, hsettled.fixed⟩
        · exact List.pairwise_cons.2 ⟨fun other hother _ => hsettledRow other hother, hsettled.apart⟩
        · exact List.forall_mem_cons.2 ⟨fun _ => hclash.1,
            fun other hother hlater earlier hearlier => hcross other hother hlater earlier (List.mem_append_left _ hearlier)⟩
    | false =>
      rw [updateRows_of_untouched hfilter htouches] at h
      obtain ⟨rfl, hsettled, hcross⟩ := ih h
      have huntouched : ¬ touches row = true := Bool.eq_false_iff.1 htouches
      refine ⟨by simp, ⟨?_, ?_⟩, ?_⟩
      · exact List.forall_mem_cons.2 ⟨fun htouch => absurd htouch huntouched, hsettled.fixed⟩
      · refine List.pairwise_cons.2 ⟨fun other hother htouch => ?_, hsettled.apart⟩
        exact (hcross other hother (htouch.resolve_left huntouched) row (List.mem_append_right _ List.mem_cons_self)).symm
      · exact List.forall_mem_cons.2 ⟨fun htouch => absurd htouch huntouched,
          fun other hother hlater earlier hearlier => hcross other hother hlater earlier (List.mem_append_left _ hearlier)⟩

/-- An update that has been made succeeds and changes nothing. -/
theorem updateRows_of_settled {done rest : List Row} (h : Settled table.columns touches change rest)
    (hdone : ∀ row ∈ rest, touches row = true → ∀ earlier ∈ done, Apart table.columns row earlier) :
    ∃ count, updateRows table written assignments filter done rest = .ok (done ++ rest, count) := by
  induction rest generalizing done with
  | nil => exact ⟨0, by rw [updateRows, List.append_nil]⟩
  | cons row rest ih =>
    obtain ⟨hrow, hfixed⟩ := List.forall_mem_cons.1 h.fixed
    obtain ⟨hothers, hapart⟩ := List.pairwise_cons.1 h.apart
    obtain ⟨hrowDone, hrestDone⟩ := List.forall_mem_cons.1 hdone
    have hnext : ∀ other ∈ rest, touches other = true → ∀ earlier ∈ done ++ [row], Apart table.columns other earlier := by
      intro other hother htouches earlier hearlier
      rcases List.mem_append.1 hearlier with hearlier | hearlier
      · exact hrestDone other hother htouches earlier hearlier
      · rw [List.mem_singleton.1 hearlier]
        exact (hothers other hother (.inr htouches)).symm
    obtain ⟨count, hcount⟩ := ih ⟨hfixed, hapart⟩ hnext
    rw [List.append_assoc, List.singleton_append] at hcount
    cases htouches : touches row with
    | true =>
      have hclash : clash? table (done ++ rest) row = none := by
        rw [clash?_eq_none_iff, List.forall_mem_append]
        exact ⟨hrowDone htouches, fun other hother => hothers other hother (.inl htouches)⟩
      rw [updateRows_of_touched hfilter hassigned htouches, hrow htouches, hclash]
      exact ⟨count + 1, by rw [hcount]; rfl⟩
    | false =>
      rw [updateRows_of_untouched hfilter htouches]
      exact ⟨count, hcount⟩

end Rows

/-! ### Updates by a key -/

theorem checkAssignments_eq_ok_iff {table : Table} {scope : Scope} {tokens : List Sql.Placed}
    {assignments : List (String × Sql.Expr)} (hfields : Dml.fields? assignments = some fields) :
    checkAssignments table scope tokens assignments = .ok () ↔ ∀ field ∈ fields, Named table.columns field.1 := by
  obtain ⟨rfl, hvalues⟩ := eq_map_of_fields? hfields
  rw [List.forall_mem_map]
  clear hfields
  induction assignments with
  | nil => exact ⟨fun _ _ ha => absurd ha List.not_mem_nil, fun _ => rfl⟩
  | cons a assignments ih =>
    obtain ⟨ha, hrest⟩ := List.forall_mem_cons.1 hvalues
    rw [checkAssignments, Sql.Expr.references_of_value? ha, checkReferences, List.forall_mem_cons, ← ih hrest, Named]
    change (if _ then _ else _) = _ ↔ _
    split
    · next hname => rw [hname, eq_self_iff_true, true_and]
    · next hname => exact ⟨(fun h => by cases h), fun h => absurd h.1 hname⟩

theorem checkUpdate_eq_ok_iff {database : Database} {tokens : List Sql.Placed} {assignments : List (String × Sql.Expr)}
    {literal : Sql.Expr} {key : Value} {table : Table} (hfields : Dml.fields? assignments = some fields)
    (hliteral : literal.value? = some key) :
    checkUpdate database tokens written assignments (some (Dml.keyCondition column literal)) = .ok table ↔
      database.find? written = some table ∧ (∀ field ∈ fields, Named table.columns field.1) ∧
        Named table.columns column := by
  have hcondition : ∀ table : Table, checkReferences [blank written table] tokens (some "WHERE")
      (referencesOfAll (some (Dml.keyCondition column literal)).toList) = .ok () ↔ Named table.columns column := by
    intro table
    have hreferences : referencesOfAll (some (Dml.keyCondition column literal)).toList =
        [column].map fun name => (none, name) := by
      change ([(none, column)] ++ references literal) ++ [] = _
      rw [Sql.Expr.references_of_value? hliteral]
      rfl
    rw [hreferences, blank, checkReferences_unqualified_iff, List.forall_mem_singleton]
  rw [checkUpdate]
  simp only [bind_eq_ok, requireTable_eq_ok_iff, checkAssignments_eq_ok_iff hfields, hcondition]
  constructor
  · rintro ⟨found, htable, ⟨⟩, hnames, ⟨⟩, hcolumn, ⟨⟩⟩
    exact ⟨htable, hnames, hcolumn⟩
  · rintro ⟨htable, hnames, hcolumn⟩
    exact ⟨table, htable, (), hnames, (), hcolumn, rfl⟩

/-- In a table of the database an update of fields by a key has been made. -/
structure Made (database : Database) (table : Table) (fields : List (String × Value)) (column : String) (key : Value) :
    Prop where
  named : ∀ field ∈ fields, Named table.columns field.1
  settled : Settled table.columns (holds table.columns column key.cell) (overwrite table.columns fields) table.rows
  /-- The rows are those of every table with the name. -/
  tables : (database.withRows table.name table.rows).tables = database.tables

theorem Database.tables_withRows (database : Database) (name : String) (rows : List Row) (count : Nat) :
    (Database.withRows { database.withRows name rows with changes := count } name rows).tables =
      (database.withRows name rows).tables := by
  change List.map _ (List.map _ database.tables) = List.map _ database.tables
  rw [List.map_map]
  refine List.map_congr_left fun table _ => ?_
  rw [Function.comp]
  cases hname : Text.sameName table.name name <;> simp [hname]

section Requests

variable {sql : String} {key : Value} {database after : Database} {table : Table} {count : Nat}

/-- An update by a key that succeeds has been made afterwards, if it does not write the key, and the same rows have the key. -/
theorem changedRows_of_update (hread : Dml.Request.read? sql = some (.update written fields column key))
    (hkey : ∀ field ∈ fields, Text.sameName field.1 column = false) (h : changedRows sql database = (.ok count, after)) :
    ∃ table rows, database.find? written = some table ∧ Named table.columns column ∧
      after = { database.withRows table.name rows with changes := count } ∧
      Made after { table with rows } fields column key ∧
      rows.map (holds table.columns column key.cell) = table.rows.map (holds table.columns column key.cell) := by
  obtain ⟨s, hstatement, assignments, literal, rfl, hfields, hliteral⟩ := Dml.Request.says_of_read? hread
  obtain ⟨tokens, hchanged⟩ := changedRows_eq_ok_iff hstatement
  obtain ⟨answer, hrun, -, hcount⟩ := hchanged.1 h
  rw [Database.run] at hrun
  split at hrun
  · cases hrun
  · next table hcheck =>
    obtain ⟨htable, hnames, hcolumn⟩ := (checkUpdate_eq_ok_iff hfields hliteral).1 hcheck
    obtain ⟨rows, number, hupdated, rfl, -⟩ := changed_eq_ok_iff.1 hrun
    cases hcount
    obtain ⟨rfl, hsettled, -⟩ := settled_of_updateRows (passes_key (Sql.Expr.eval_of_value? hliteral) written table.columns)
      (assigned_eq hfields table) (holds_overwrite hkey table.columns key.cell) (overwrite_overwrite table.columns fields)
      hupdated
    refine ⟨table, _, htable, hcolumn, rfl, ⟨hnames, hsettled, ?_⟩, ?_⟩
    · exact Database.tables_withRows database table.name _ number
    · rw [List.nil_append, List.map_map]
      refine List.map_congr_left fun row _ => ?_
      rw [Function.comp]
      split
      · rw [holds_overwrite hkey]
      · rfl

theorem Made.repeated (h : Made database table fields column key)
    (hread : Dml.Request.read? sql = some (.update written fields column key))
    (htable : database.find? written = some table) (hcolumn : Named table.columns column) :
    ∃ count, changedRows sql database = (.ok count, { database with changes := count }) := by
  obtain ⟨s, hstatement, assignments, literal, rfl, hfields, hliteral⟩ := Dml.Request.says_of_read? hread
  obtain ⟨tokens, hchanged⟩ := changedRows_eq_ok_iff hstatement
  have hdone : ∀ row ∈ table.rows, holds table.columns column key.cell row = true →
      ∀ earlier ∈ ([] : List Row), Apart table.columns row earlier :=
    fun _ _ _ _ hmem => absurd hmem List.not_mem_nil
  obtain ⟨count, hupdated⟩ := updateRows_of_settled
    (passes_key (Sql.Expr.eval_of_value? hliteral) written table.columns) (assigned_eq hfields table) h.settled hdone
  have hrun : database.run tokens (.update written assignments (some (Dml.keyCondition column literal))) =
      changed database table (.ok (table.rows, count)) := by
    rw [Database.run, (checkUpdate_eq_ok_iff hfields hliteral).2 ⟨htable, h.named, hcolumn⟩]
    exact congrArg (changed database table) hupdated
  have hsame : database.withRows table.name table.rows = database := by
    obtain ⟨tables, saved, changes⟩ := database
    exact congrArg (fun tables => Database.mk tables saved changes) h.tables
  refine ⟨count, hchanged.2 ⟨⟨[], { database with changes := count }⟩, ?_, rfl, rfl⟩⟩
  rw [hrun, changed, hsame]

/-- The insertion of fields among rows without a key makes the update of some of them by that key. -/
theorem made_of_insertion {all : List (String × Value)} (hread : Dml.Request.read? sql = some (.insert written all))
    (hdistinct : DistinctNames all) (hsubset : fields ⊆ all) (htable : database.find? written = some table)
    (hrows : ∀ row ∈ table.rows, holds table.columns column key.cell row = false)
    (h : changedRows sql database = (.ok count, after)) :
    ∃ row, row = newRow table (all.map Prod.fst) (all.map (·.2.cell)) ∧
      after = { database.withRows table.name (table.rows ++ [row]) with changes := 1 } ∧
      Made after { table with rows := table.rows ++ [row] } fields column key := by
  obtain ⟨found, hfound, hnames, hclash, rfl⟩ := changedRows_of_insertion hread h
  rw [htable] at hfound
  cases hfound
  refine ⟨_, rfl, rfl, fun field hfield => hnames field (hsubset hfield), ?_, ?_⟩
  · exact Settled.of_insertion hrows (overwrite_newRow hdistinct hsubset table) hclash
  · exact Database.tables_withRows database table.name _ 1

/-- A new row holds the key that one of its fields has. -/
theorem holds_newRow {all : List (String × Value)} {field : String × Value} {found : Column} (hdistinct : DistinctNames all)
    (hfield : field ∈ all) (hname : Text.sameName field.1 column = true) (hvalue : field.2.Identifies)
    (hfound : table.columns.find? (fun other => Text.sameName other.name column) = some found)
    (hstore : found.affinity.store field.2.cell = field.2.cell) :
    holds table.columns column field.2.cell (newRow table (all.map Prod.fst) (all.map (·.2.cell))) = true := by
  have hcolumn : Text.sameName found.name column = true := by simpa using List.find?_some hfound
  have hsame : Text.sameName field.1 found.name = true := by rw [Text.sameName_congr hcolumn, hname]
  refine holds_of_cellIn hvalue hstore ?_
  rw [newRow_eq, cellIn_map hfound, newCell_of_mem hdistinct hfield hsame, hstore]

end Requests

end Tables

end ObjectStore
