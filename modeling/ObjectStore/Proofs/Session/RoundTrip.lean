import ObjectStore.Proofs.Dml.Singles
import ObjectStore.Proofs.Query.OwnFields
import ObjectStore.Proofs.Tables.Insertion
import ObjectStore.Session.Basic

/-!
# Inserting a record and finding it again

A record that has been inserted is found again by its key, with all its fields as they were. On its way it passes through the text of a statement, the cells of a row, the text of a query and the conversion of the cells to the kinds that its class declares. A field without a value is left out of the statement, and is found without a value in its column.
-/

namespace ObjectStore

open Tables (Database Table)

/-! ### What a successful insertion leaves -/

namespace Dml

variable {deadline : Deadline} {className : String} {record : Record} {key : Option String}
  {world after : World Database}

/-- The statement that inserts a record was run on the tables before, and those after are what it left. -/
def Inserted (className : String) (record : Record) (before after : World Database) : Prop :=
  ∃ (s : Sql.Statement) (start done : Database) (rows : Nat), insertStatement className record = .ok s ∧
    start.tables = before.state.tables ∧ Tables.changedRows s.render start = (.ok rows, done) ∧
    after.state.tables = done.tables

theorem inserted_of_executeFor {mode : Mode} {report : Report}
    (h : executeFor Tables.store mode deadline className ⟨.insert, className, [record], key⟩ world = (.ok report, after))
    (hsuccess : report.isSuccess = true) : Inserted className record world after := by
  obtain ⟨-, start, done, applied, hencloses, happlied⟩ := enclosed_of_executeFor rfl h hsuccess
  obtain ⟨-, htables, -, hkept, -⟩ := hencloses.tables
  rw [applyRecord] at happlied
  split at happlied
  · cases happlied
  · cases hstatement : insertStatement className record with
    | error e =>
      rw [hstatement] at happlied
      cases happlied
    | ok s =>
      rw [hstatement] at happlied
      obtain ⟨rows, hexecute, -⟩ := run_eq_ok_iff.1 happlied
      obtain ⟨-, -, hchanged⟩ := Tables.store_execute_iff.1 hexecute
      exact ⟨s, start.state, done.state, rows, hstatement, htables, hchanged, hkept⟩

theorem inserted_of_execute {registry : Registry} {mode : Mode} {report : Report}
    (h : execute Tables.store mode deadline registry ⟨.insert, className, [record], key⟩ world = (.ok report, after))
    (hsuccess : report.isSuccess = true) : Inserted className record world after := by
  rw [execute] at h
  split at h
  · cases h
  · next c hc =>
    rw [Registry.name_of_lookup? (Registry.lookup?_of_resolve hc)] at h
    exact inserted_of_executeFor h hsuccess

end Dml

/-! ### Asking by a key -/

theorem Session.query_byField {session : Session Database} {c : ClassType} {table : Table} {className key text : String}
    {fields : List String} {operand : Operand} {bindings : Bindings} {deadline : Deadline} {world : World Database}
    (hstore : session.store = Tables.store) (hdeadline : deadline.interruption? world.clock = none)
    (hclass : Text.isIdentifier className = true) (htarget : session.registry.lookup? className = some c)
    (hne : fields ≠ []) (hfields : ∀ field ∈ fields, Text.isIdentifier field = true) (hnodup : fields.Nodup)
    (hkey : Text.isIdentifier key = true) (hoperand : operand.resolve bindings = .ok (.string text))
    (htable : world.state.find? className = some table)
    (hcolumns : ∀ name ∈ key :: fields,
      ∃ column, table.columns.find? (fun column => Text.sameName column.name name) = some column) :
    session.query (.byField className fields key operand) bindings deadline world =
      (session.registry.materialize c (fields.map .own)
        ((table.rows.filter fun row =>
          Tables.passes (Tables.scopeOf className table.columns row)
            (some (.compare .equal (.column (some className) key) (.ofText text)))).map fun row =>
              fields.map fun name => ((Tables.cellIn table.columns row name).getD (.none, .null)).2), world) := by
  have hcompiled := Query.compile_byField hclass htarget hne hfields hnodup hkey hoperand
  have hliteral := Sql.Expr.references_of_value? (Sql.Expr.Denotes.ofText text).value_eq
  have hrows := fun tokens => Tables.runSelect_byText tokens htable
    (fun name hname => hcolumns name (List.mem_cons_of_mem _ hname)) (hcolumns key List.mem_cons_self) hliteral
  have hanswer := Tables.store_query_eq hdeadline (Query.read?_byField hcompiled rfl) hrows
  rw [query, compile, hcompiled]
  dsimp only [Except.mapError]
  rw [hstore, hanswer]

/-! ### There and back -/

/-- The records of a class that a table keeps as they are: their fields are declared with kinds that take the values, and have columns that store these unconverted. -/
structure Kept (c : ClassType) (table : Table) (record : Record) : Prop where
  identifiers : ∀ field ∈ record.fields, Text.isIdentifier field.1 = true
  distinct : Tables.DistinctNames record.fields
  declared : ∀ field ∈ record.fields, ∃ kind, c.fieldType? field.1 = some kind ∧ kind.keeps field.2 = true
  columns : ∀ field ∈ record.fields,
    ∃ column, table.columns.find? (fun column => Text.sameName column.name field.1) = some column ∧
      column.affinity.store field.2.cell = field.2.cell

namespace Kept

variable {c : ClassType} {table : Table} {record : Record}

theorem nodup_names (h : Kept c table record) : (record.fields.map Prod.fst).Nodup := by
  rw [List.Nodup, List.pairwise_map]
  refine h.distinct.imp fun hdifferent heq => ?_
  rw [heq, Text.sameName_self _] at hdifferent
  cases hdifferent

theorem column_of_mem (h : Kept c table record) {field : String × Value} (hfield : field ∈ record.fields) :
    ∃ column, table.columns.find? (fun column => Text.sameName column.name field.1) = some column := by
  obtain ⟨column, hcolumn, -⟩ := h.columns field hfield
  exact ⟨column, hcolumn⟩

theorem cellIn_rowOf (h : Kept c table record) {field : String × Value} (hfield : field ∈ record.fields) :
    (Tables.cellIn table.columns (Tables.rowOf table record) field.1).map Prod.snd = some field.2.cell := by
  obtain ⟨column, hcolumn, hstore⟩ := h.columns field hfield
  rw [Tables.cellIn_rowOf h.distinct hfield hcolumn hstore, Option.map_some]

/-- Of the rows after the insertion only the new one has the key, and in the columns of the fields it has their cells. -/
theorem rows_found (h : Kept c table record) (written : String) {key text : String} {literal : Sql.Expr}
    (hkey : (key, Value.string text) ∈ record.fields)
    (hnew : ∀ row ∈ table.rows, (Tables.cellIn table.columns row key).map Prod.snd ≠ some (.text text))
    (hliteral : ∀ scope, Tables.eval scope literal = (.none, .text text)) {selected : List (String × Value)}
    (hselected : ∀ field ∈ selected, field ∈ record.fields) :
    ((table.rows ++ [Tables.rowOf table record]).filter fun row =>
      Tables.passes (Tables.scopeOf written table.columns row)
        (some (.compare .equal (.column (some written) key) literal))).map (fun row =>
          (selected.map Prod.fst).map fun name => ((Tables.cellIn table.columns row name).getD (.none, .null)).2) =
      [selected.map (·.2.cell)] := by
  obtain ⟨column, hcolumn, hstore⟩ := h.columns _ hkey
  have hpasses := Tables.passes_text written hcolumn hstore hliteral
  have hold : table.rows.filter (fun row => Tables.passes (Tables.scopeOf written table.columns row)
      (some (.compare .equal (.column (some written) key) literal))) = [] :=
    List.filter_eq_nil_iff.2 fun row hrow hpass => hnew row hrow ((hpasses row).1 hpass)
  have hfound : [Tables.rowOf table record].filter (fun row =>
      Tables.passes (Tables.scopeOf written table.columns row)
        (some (.compare .equal (.column (some written) key) literal))) = [Tables.rowOf table record] :=
    List.filter_eq_self.2 (List.forall_mem_singleton.2 ((hpasses _).2 (h.cellIn_rowOf hkey)))
  rw [List.filter_append, hold, hfound, List.nil_append, List.map_singleton, List.map_map]
  refine congrArg (fun cells => [cells]) (List.map_congr_left fun field hfield => ?_)
  obtain ⟨found, hcell, heq⟩ := Option.map_eq_some_iff.1 (h.cellIn_rowOf (hselected field hfield))
  rw [Function.comp, hcell, Option.getD_some, heq]

end Kept

theorem Dml.Inserted.find? {record : Record} {before after : World Database} {table : Table}
    (h : Inserted record.className record before after) (hvalue : (present record).isEmpty = false)
    (htable : before.state.find? record.className = some table) :
    after.state.find? record.className = some { table with rows := table.rows ++ [Tables.rowOf table record] } := by
  obtain ⟨s, start, done, rows, hs, hstart, hrows, hdone⟩ := h
  have hread := read?_insertStatement hs
  rw [hvalue, if_neg Bool.false_ne_true] at hread
  have hstarted : start.find? record.className = some table := by rw [Database.find?_congr hstart, htable]
  rw [Database.find?_congr hdone]
  exact Tables.find?_of_insertion hread hstarted hrows

theorem Dml.Inserted.isIdentifier {className : String} {record : Record} {before after : World Database}
    (h : Inserted className record before after) : Text.isIdentifier className = true := by
  obtain ⟨s, start, done, rows, hs, -⟩ := h
  obtain ⟨table, htable, -⟩ := bind_eq_ok.1 hs
  exact (checkIdentifier_eq_ok htable).1

/-- A record that was inserted is found by its key: selecting its fields, in whatever order, for the key that it has gives one record, which is equal to it. -/
theorem inserted_record_is_found {session : Session Database} (hstore : session.store = Tables.store) {c : ClassType}
    {record : Record} {table : Table} {id : String} {before after asked : World Database} {deadline later : Deadline}
    {upsertKey : Option String} {report : Dml.Report} {selected : List (String × Value)} {operand : Operand}
    {bindings : Bindings} (hclass : session.registry.lookup? record.className = some c)
    (htable : before.state.find? record.className = some table) (hkept : Kept c table record)
    (hid : record.get? idField = some (.string id))
    (hnew : ∀ row ∈ table.rows, (Tables.cellIn table.columns row idField).map Prod.snd ≠ some (.text id))
    (hinsert : session.execute ⟨.insert, record.className, [record], upsertKey⟩ deadline before = (.ok report, after))
    (hsuccess : report.isSuccess = true) (hasked : asked.state = after.state)
    (hlater : later.interruption? asked.clock = none) (hselected : selected.Perm record.fields)
    (hoperand : operand.resolve bindings = .ok (.string id)) :
    session.query (.byField record.className (selected.map Prod.fst) idField operand) bindings later asked =
        (.ok [⟨record.className, selected⟩], asked) ∧
      (⟨record.className, selected⟩ : Record).same record = true := by
  have hinserted : Dml.Inserted record.className record before after := by
    rw [Session.execute, hstore] at hinsert
    exact Dml.inserted_of_execute hinsert hsuccess
  have hkey : (idField, Value.string id) ∈ record.fields := by
    obtain ⟨front, back, hfields, -⟩ := List.lookup_eq_some_iff.1 hid
    rw [hfields]
    exact List.mem_append_right _ List.mem_cons_self
  have hvalue : (Dml.present record).isEmpty = false :=
    List.isEmpty_eq_false_iff.2 (List.ne_nil_of_mem (List.mem_filter.2 ⟨hkey, rfl⟩))
  -- What holds of the fields of the record holds of those that are selected.
  have hmem : ∀ field ∈ selected, field ∈ record.fields := fun field => hselected.mem_iff.1
  have hnodup : (selected.map Prod.fst).Nodup := (hselected.map Prod.fst).nodup_iff.2 hkept.nodup_names
  have hdeclared : ∀ field ∈ selected, ∃ kind, c.fieldType? field.1 = some kind ∧ kind.keeps field.2 = true :=
    fun field hfield => hkept.declared field (hmem field hfield)
  have hfound := hinserted.find? hvalue htable
  rw [← hasked] at hfound
  have hidentifiers : ∀ name ∈ selected.map Prod.fst, Text.isIdentifier name = true :=
    List.forall_mem_map.2 fun field hfield => hkept.identifiers field (hmem field hfield)
  have hcolumns : ∀ name ∈ idField :: selected.map Prod.fst,
      ∃ column, table.columns.find? (fun column => Text.sameName column.name name) = some column :=
    List.forall_mem_cons.2 ⟨hkept.column_of_mem hkey,
      List.forall_mem_map.2 fun field hfield => hkept.column_of_mem (hmem field hfield)⟩
  have hne : selected.map Prod.fst ≠ [] :=
    List.ne_nil_of_mem (List.mem_map_of_mem (hselected.mem_iff.2 hkey))
  have hidField : Text.isIdentifier idField = true := by decide
  -- The query comes to the rows with the key, the only one of which is that of the record, and this becomes the record.
  have hquery := Session.query_byField hstore hlater hinserted.isIdentifier hclass hne hidentifiers hnodup hidField
    hoperand hfound hcolumns
  have hrows := hkept.rows_found record.className hkey hnew (Sql.Expr.Denotes.ofText id).eval_eq hmem
  have hrecord : session.registry.materialize c ((selected.map Prod.fst).map .own) [selected.map (·.2.cell)] =
      .ok [⟨c.name, selected⟩] := Registry.materialize_own hnodup hdeclared
  rw [Registry.name_of_lookup? hclass] at hrecord
  refine ⟨?_, Record.same_of_perm hselected hkept.nodup_names (fun field hfield => ?_) record.className⟩
  · rw [hquery, hrows, hrecord]
  · obtain ⟨kind, -, hkeeps⟩ := hkept.declared field hfield
    exact FieldType.same_self hkeeps

def memberClass : ClassType :=
  { ClassType.bare "Member" with
    fields := [("Id", .id), ("Name", .string), ("Age", .integer), ("Active", .boolean), ("Club", .reference "Club")] }

def memberSession : Session Database := ⟨⟨[memberClass]⟩, Tables.store, Config.inMemory⟩

def memberTable : Table where
  name := "member"
  columns := [⟨"id", .text, true⟩, ⟨"name", .text, false⟩, ⟨"age", .integer, false⟩, ⟨"active", .none, false⟩,
    ⟨"club", .text, false⟩]
  rows := [[.text "12345", .text "hoge", .null, .null, .null]]

def memberWorld : World Database := ⟨⟨0, [], 1⟩, ⟨[memberTable], none, 0⟩⟩

/-- A record with a value of each kind, a quote and a line break in a text, and a field without a value. -/
def newMember : Record :=
  ⟨"Member", [("Id", .string "abcde"), ("Name", .string "O'Hara\n"), ("Age", .integer 41), ("Active", .boolean true),
    ("Club", .null)]⟩

theorem newMember_kept : Kept memberClass memberTable newMember where
  identifiers := by decide
  distinct := by
    rw [Tables.DistinctNames]
    decide
  declared := by
    simp only [newMember, List.forall_mem_cons]
    exact ⟨⟨_, rfl, rfl⟩, ⟨_, rfl, rfl⟩, ⟨_, rfl, rfl⟩, ⟨_, rfl, rfl⟩, ⟨_, rfl, rfl⟩, List.forall_mem_nil _⟩
  columns := by
    simp only [newMember, List.forall_mem_cons]
    exact ⟨⟨_, rfl, rfl⟩, ⟨_, rfl, rfl⟩, ⟨_, rfl, rfl⟩, ⟨_, rfl, rfl⟩, ⟨_, rfl, rfl⟩, List.forall_mem_nil _⟩

theorem new_member_is_found : ∃ report after,
    memberSession.execute ⟨.insert, "Member", [newMember], none⟩ ⟨none, 0⟩ memberWorld = (.ok report, after) ∧
      report.isSuccess = true ∧
      memberSession.query (.byField "Member" (newMember.fields.map Prod.fst) idField (.literal (.string "abcde"))) []
        ⟨none, 0⟩ ⟨memberWorld.clock, after.state⟩ = (.ok [newMember], ⟨memberWorld.clock, after.state⟩) ∧
      newMember.same newMember = true := by
  have hsuccess : ((memberSession.execute ⟨.insert, "Member", [newMember], none⟩ ⟨none, 0⟩ memberWorld).1.map
      Dml.Report.isSuccess).toOption = some true := by decide +kernel
  rcases hinsert : memberSession.execute ⟨.insert, "Member", [newMember], none⟩ ⟨none, 0⟩ memberWorld
    with ⟨e | report, after⟩
  · rw [hinsert] at hsuccess
    cases hsuccess
  · rw [hinsert] at hsuccess
    have hreport : report.isSuccess = true := Option.some.inj hsuccess
    have hstore : memberSession.store = Tables.store := rfl
    have hclass : memberSession.registry.lookup? newMember.className = some memberClass := rfl
    have htable : memberWorld.state.find? newMember.className = some memberTable := rfl
    have hid : newMember.get? idField = some (.string "abcde") := rfl
    have hnew : ∀ row ∈ memberTable.rows,
        (Tables.cellIn memberTable.columns row idField).map Prod.snd ≠ some (.text "abcde") := by decide
    have hoperand : (Operand.literal (.string "abcde")).resolve [] = .ok (.string "abcde") := rfl
    have hasked : (⟨memberWorld.clock, after.state⟩ : World Database).state = after.state := rfl
    have hlater : (⟨none, 0⟩ : Deadline).interruption? memberWorld.clock = none := rfl
    have hfound := inserted_record_is_found hstore hclass htable newMember_kept hid hnew hinsert hreport hasked hlater
      (.refl newMember.fields) hoperand
    exact ⟨report, after, rfl, hreport, hfound⟩

end ObjectStore
