import ObjectStore.Proofs.Dml.Singles
import ObjectStore.Proofs.Tables.Updates

/-!
# Upserts that are repeated

An upsert asks for a row with the record's key, and inserts the record or updates the rows that have the key. Whichever it was, the tables then hold the record: there is a row with the key, and the update of the rows with the key has been made. An upsert of a record that the tables hold finds a row, so it does not insert, and the update that it makes or leaves out changes nothing.
-/

namespace ObjectStore.Dml

open Tables (Database Table Named Made holds)

variable {className key : String} {record : Record} {index : Nat} {value : Value} {s lookup : Sql.Statement}

/-! ### The statements of an upsert -/

/-- The fields that an upsert writes into the rows that it finds. -/
def rewritten (record : Record) (key : String) : List (String × Value) :=
  (present record).filter fun field => !Text.sameName idField field.1 && !Text.sameName key field.1

theorem sameName_keyColumnOf (key : String) : Text.sameName key (keyColumnOf key) = true := by
  rw [keyColumnOf]
  split
  · next hkey =>
    have hid : Text.sameName idField idColumn = true := by decide
    rw [Text.sameName_iff] at *
    exact hkey.trans hid
  · exact beq_self_eq_true _

theorem key_not_rewritten {field : String × Value} (hfield : field ∈ rewritten record key) :
    Text.sameName field.1 (keyColumnOf key) = false := by
  have hname := (List.mem_filter.1 hfield).2
  rw [Bool.and_eq_true, Bool.not_eq_true', Bool.not_eq_true'] at hname
  rw [Bool.eq_false_iff, Ne, Text.sameName_iff, ← (Text.sameName_iff _ _).1 (sameName_keyColumnOf key),
    ← Text.sameName_iff]
  intro hsame
  have hkey : Text.sameName key field.1 = true := Text.sameName_symm hsame
  rw [hname.2] at hkey
  cases hkey

/-- There is a statement for the rows that are found if there is anything to write. -/
theorem upsertStatement?_isNone {update? : Option Sql.Statement}
    (h : upsertStatement? className record key index = .ok update?) : update? = none ↔ rewritten record key = [] := by
  simp only [upsertStatement?, bind_eq_ok, mapError_eq_ok] at h
  obtain ⟨table, -, found, -, assigned, hassigned, h⟩ := h
  have hassigns := assigns_of_assignments hassigned
  have hrewritten : writtenFields record [idField, key] = rewritten record key := by
    rw [writtenFields_eq, rewritten]
    simp
  rw [← List.isEmpty_iff, ← hrewritten, hassigns.isEmpty_eq]
  cases hempty : assigned.isEmpty with
  | true =>
    rw [hempty] at h
    cases h
    exact ⟨fun _ => rfl, fun _ => rfl⟩
  | false =>
    rw [hempty] at h
    simp only [Bool.false_eq_true, if_false, bind_eq_ok, mapError_eq_ok] at h
    obtain ⟨column, -, literal, -, h⟩ := h
    cases h
    exact ⟨(fun h => by cases h), (fun h => by cases h)⟩

theorem exists_assignments {assigned : List (String × Sql.Expr)} (h : assignments record [] = .ok assigned)
    (skipped : List String) : ∃ others, assignments record skipped = .ok others := by
  refine exists_mapM_eq_ok fun field hfield => exists_of_mapM_eq_ok h ?_
  rw [writtenFields_eq] at hfield ⊢
  exact List.mem_filter.2 ⟨List.mem_of_mem_filter hfield, rfl⟩

theorem exists_upsertStatement (hinsert : insertStatement className record = .ok s)
    (hlookup : lookupStatement className record key index = .ok lookup) :
    ∃ update?, upsertStatement? className record key index = .ok update? := by
  simp only [insertStatement, bind_eq_ok] at hinsert
  obtain ⟨table, htable, assigned, hassigned, -⟩ := hinsert
  simp only [lookupStatement, bind_eq_ok, mapError_eq_ok] at hlookup
  obtain ⟨_, -, found, hfound, column, hcolumn, literal, hliteral, -⟩ := hlookup
  obtain ⟨others, hothers⟩ := exists_assignments hassigned [idField, key]
  simp only [upsertStatement?, htable, hfound, hothers, hcolumn]
  change ∃ update?, (if others.isEmpty then _ else Except.bind (Except.mapError Error.compile (columnLiteral found)) _) =
    Except.ok update?
  rw [hliteral]
  cases others.isEmpty
  · exact ⟨_, rfl⟩
  · exact ⟨_, rfl⟩

/-! ### Tables that hold a record -/

/-- The tables hold a record under a key: a row has the key, and the update of the rows with the key has been made, if there is anything to update. -/
structure Held (className : String) (record : Record) (key : String) (value : Value) (database : Database) (table : Table) :
    Prop where
  found : database.find? className = some table
  id : Named table.columns idColumn
  column : Named table.columns (keyColumnOf key)
  row : ∃ row ∈ table.rows, holds table.columns (keyColumnOf key) value.cell row = true
  made : rewritten record key ≠ [] → Made database table (rewritten record key) (keyColumnOf key) value

theorem Held.of_tables_eq {database other : Database} {table : Table} (h : Held className record key value database table)
    (htables : other.tables = database.tables) : Held className record key value other table where
  found := by rw [Database.find?_congr htables, h.found]
  id := h.id
  column := h.column
  row := h.row
  made hne := by
    obtain ⟨hnamed, hsettled, hmade⟩ := h.made hne
    refine ⟨hnamed, hsettled, ?_⟩
    rw [Database.withRows] at hmade ⊢
    rw [htables, hmade]

variable {deadline : Deadline} {world after : World Database} {applied : Applied}

/-- The question of an upsert leaves everything as it is, and is answered with the first row that has the record's key. -/
theorem query_lookup_iff {asked : World Database} {rows : List Row} (hkey : record.get? key = some value)
    (hlookup : lookupStatement className record key index = .ok lookup) :
    Tables.store.query deadline lookup.render world = (.ok rows, asked) ↔
      deadline.interruption? world.clock = none ∧ asked = world ∧ ∃ table, world.state.find? className = some table ∧
        Named table.columns idColumn ∧ Named table.columns (keyColumnOf key) ∧
        rows = ((table.rows.filter (holds table.columns (keyColumnOf key) value.cell)).take 1).map fun row =>
          [((Tables.cellIn table.columns row idColumn).getD (.none, .null)).2] := by
  obtain ⟨found, hfound, -, hread⟩ := read?_lookupStatement hlookup
  rw [hkey] at hfound
  cases hfound
  rw [Tables.store_query_iff, Tables.queryRows_of_find hread]
  constructor
  · rintro ⟨hdeadline, hclock, hstate, hrows⟩
    obtain ⟨clock, state⟩ := asked
    cases hclock
    cases hstate
    exact ⟨hdeadline, rfl, hrows⟩
  · rintro ⟨hdeadline, rfl, hrows⟩
    exact ⟨hdeadline, rfl, rfl, hrows⟩

theorem upsert_of_held {table : Table} {update? : Option Sql.Statement}
    (h : Held className record key value world.state table) (hkey : record.get? key = some value)
    (hlookup : lookupStatement className record key index = .ok lookup)
    (hupdate : upsertStatement? className record key index = .ok update?)
    (hdeadline : deadline.interruption? world.clock = none) :
    ∃ applied after, upsert Tables.store deadline className record key index world = (.ok applied, after) ∧
      applied.operation = .update ∧ after.clock = world.clock ∧ after.state.tables = world.state.tables ∧
      after.state.saved = world.state.saved := by
  obtain ⟨row, others, hrows⟩ : ∃ row others, (table.rows.filter (holds table.columns (keyColumnOf key) value.cell)).take 1 =
      row :: others := by
    obtain ⟨row, hrow, hholds⟩ := h.row
    obtain ⟨first, rest, hfirst⟩ := List.exists_cons_of_ne_nil (List.ne_nil_of_mem (List.mem_filter.2 ⟨hrow, hholds⟩))
    exact ⟨first, [], by rw [hfirst]; rfl⟩
  have hquery := (query_lookup_iff hkey hlookup).2 ⟨hdeadline, rfl, table, h.found, h.id, h.column, rfl⟩
  rw [hrows, List.map_cons] at hquery
  rw [upsert, hlookup]
  dsimp only
  rw [hquery, hupdate]
  dsimp only
  cases update? with
  | none => exact ⟨_, world, rfl, rfl, rfl, rfl, rfl⟩
  | some update =>
    obtain ⟨found, hfound, -, hrequest⟩ := read?_upsertStatement? hupdate
    rw [hkey] at hfound
    cases hfound
    have hne : rewritten record key ≠ [] := by
      rw [Ne, ← upsertStatement?_isNone hupdate]
      exact Option.some_ne_none update
    obtain ⟨count, hchanged⟩ := (h.made hne).repeated hrequest h.found h.column
    have hexecute : Tables.store.execute deadline update.render world =
        (.ok count, { world with state := { world.state with changes := count } }) :=
      Tables.store_execute_iff.2 ⟨hdeadline, rfl, hchanged⟩
    exact ⟨_, _, run_eq_ok_iff.2 ⟨count, hexecute, rfl⟩, rfl, rfl, rfl, rfl⟩

/-! ### What an upsert leaves -/

theorem present_of_get? (hkey : record.get? key = some value) (hvalue : value.Identifies) :
    (key, value) ∈ present record := by
  obtain ⟨front, back, hfields, -⟩ := List.lookup_eq_some_iff.1 hkey
  refine List.mem_filter.2 ⟨hfields ▸ List.mem_append_right _ List.mem_cons_self, ?_⟩
  cases value with
  | null => cases hvalue
  | _ => rfl

/-- The changes of a table that an upsert has found with rows for the record's key or without. -/
inductive Took (className : String) (record : Record) (key : String) (index : Nat) (value : Value) (database : Database)
    (table : Table) : Database → Prop where
  | insertion {s : Sql.Statement} {count : Nat} {after : Database}
      (hnone : ∀ row ∈ table.rows, holds table.columns (keyColumnOf key) value.cell row = false)
      (hs : insertStatement className record = .ok s) (h : Tables.changedRows s.render database = (.ok count, after)) :
      Took className record key index value database table after
  | nothing (hrow : ∃ row ∈ table.rows, holds table.columns (keyColumnOf key) value.cell row = true)
      (h : upsertStatement? className record key index = .ok none) :
      Took className record key index value database table database
  | update {s : Sql.Statement} {count : Nat} {after : Database}
      (hrow : ∃ row ∈ table.rows, holds table.columns (keyColumnOf key) value.cell row = true)
      (hs : upsertStatement? className record key index = .ok (some s))
      (h : Tables.changedRows s.render database = (.ok count, after)) :
      Took className record key index value database table after

/-- An upsert that succeeds has been answered whether there is a row, and has made the change for that answer. -/
theorem took_of_upsert (hkey : record.get? key = some value)
    (h : upsert Tables.store deadline className record key index world = (.ok applied, after)) :
    deadline.interruption? world.clock = none ∧ after.clock = world.clock ∧
      ∃ lookup table, lookupStatement className record key index = .ok lookup ∧
        world.state.find? className = some table ∧ Named table.columns idColumn ∧ Named table.columns (keyColumnOf key) ∧
        Took className record key index value world.state table after.state := by
  rw [upsert] at h
  cases hlookup : lookupStatement className record key index with
  | error e =>
    rw [hlookup] at h
    cases h
  | ok lookup =>
    rw [hlookup] at h
    dsimp only at h
    rcases hquery : Tables.store.query deadline lookup.render world with ⟨e | rows, asked⟩
    · rw [hquery] at h
      cases h
    · rw [hquery] at h
      obtain ⟨hdeadline, rfl, table, htable, hid, hcolumn, rfl⟩ := (query_lookup_iff hkey hlookup).1 hquery
      refine ⟨hdeadline, ?_⟩
      cases hmatching : table.rows.filter (holds table.columns (keyColumnOf key) value.cell) with
      | nil =>
        rw [hmatching] at h
        cases hinsert : insertStatement className record with
        | error e =>
          rw [hinsert] at h
          cases h
        | ok s =>
          rw [hinsert] at h
          obtain ⟨count, hexecute, -⟩ := run_eq_ok_iff.1 h
          obtain ⟨-, hafter, hchanged⟩ := Tables.store_execute_iff.1 hexecute
          exact ⟨hafter, lookup, table, rfl, htable, hid, hcolumn, .insertion
            (fun row hrow => Bool.eq_false_iff.2 (List.filter_eq_nil_iff.1 hmatching row hrow)) hinsert hchanged⟩
      | cons row others =>
        rw [hmatching] at h
        dsimp only [List.take_succ_cons, List.map_cons] at h
        have hrow : row ∈ table.rows.filter (holds table.columns (keyColumnOf key) value.cell) :=
          hmatching ▸ List.mem_cons_self
        have hexists : ∃ row ∈ table.rows, holds table.columns (keyColumnOf key) value.cell row = true :=
          ⟨row, List.mem_filter.1 hrow⟩
        cases hupdate : upsertStatement? className record key index with
        | error e =>
          rw [hupdate] at h
          cases h
        | ok update? =>
          rw [hupdate] at h
          cases update? with
          | none =>
            cases h
            exact ⟨rfl, lookup, table, rfl, htable, hid, hcolumn, .nothing hexists hupdate⟩
          | some update =>
            obtain ⟨count, hexecute, -⟩ := run_eq_ok_iff.1 h
            obtain ⟨-, hafter, hchanged⟩ := Tables.store_execute_iff.1 hexecute
            exact ⟨hafter, lookup, table, rfl, htable, hid, hcolumn, .update hexists hupdate hchanged⟩

/-- After an upsert the tables hold the record, and there is a statement for the rows that another one would find, if there is anything to write. -/
theorem Took.held {database done : Database} {table : Table}
    (h : Took className record key index value database table done) (hdistinct : Tables.DistinctNames record.fields)
    (hkey : record.get? key = some value) (hvalue : value.Identifies)
    (hlookup : lookupStatement className record key index = .ok lookup) (htable : database.find? className = some table)
    (hid : Named table.columns idColumn) (hcolumn : Named table.columns (keyColumnOf key))
    (hstore : ∀ column, table.columns.find? (fun column => Text.sameName column.name (keyColumnOf key)) = some column →
      column.affinity.store value.cell = value.cell) :
    (∃ update?, upsertStatement? className record key index = .ok update?) ∧
      ∃ table, Held className record key value done table := by
  cases h with
  | insertion hnone hs h =>
    refine ⟨exists_upsertStatement hs hlookup, ?_⟩
    have hmem := present_of_get? hkey hvalue
    have hpresent := hdistinct.present
    have hsubset : rewritten record key ⊆ present record := fun _ => List.mem_of_mem_filter
    have hread := read?_insertStatement hs
    rw [List.isEmpty_eq_false_iff.2 (List.ne_nil_of_mem hmem), if_neg Bool.false_ne_true] at hread
    obtain ⟨row, rfl, rfl, hmade⟩ := Tables.made_of_insertion hread hpresent hsubset htable hnone h
    obtain ⟨column, hfound⟩ := Option.isSome_iff_exists.1 (List.find?_isSome.2 (List.any_eq_true.1 hcolumn))
    refine ⟨_, Database.find?_withRows htable _, hid, hcolumn, ⟨_, List.mem_append_right _ List.mem_cons_self, ?_⟩,
      fun _ => hmade⟩
    exact Tables.holds_newRow hpresent hmem (sameName_keyColumnOf key) hvalue hfound (hstore column hfound)
  | nothing hrow h =>
    exact ⟨⟨none, h⟩, table, htable, hid, hcolumn, hrow, fun hne => absurd ((upsertStatement?_isNone h).1 rfl) hne⟩
  | @update s _ _ hrow hs h =>
    refine ⟨⟨some s, hs⟩, ?_⟩
    obtain ⟨found, hfound, -, hrequest⟩ := read?_upsertStatement? hs
    rw [hkey] at hfound
    cases hfound
    obtain ⟨written, rows, hwritten, -, rfl, hmade, hkept⟩ :=
      Tables.changedRows_of_update hrequest (fun _ => key_not_rewritten) h
    rw [htable] at hwritten
    cases hwritten
    refine ⟨{ table with rows }, Database.find?_withRows htable rows, hid, hcolumn, ?_, fun _ => hmade⟩
    obtain ⟨row, hmem, hholds⟩ := hrow
    have htrue : true ∈ rows.map (holds table.columns (keyColumnOf key) value.cell) :=
      hkept ▸ hholds ▸ List.mem_map_of_mem hmem
    exact List.mem_map.1 htrue

/-! ### Once more -/

theorem applyRecord_upsert_iff {σ : Type} {store : Store σ} {deadline : Deadline} {target : String} {records : List Record}
    {upsertKey : Option String} {world after : World σ} {applied : Applied} :
    applyRecord store deadline className ⟨.upsert, target, records, upsertKey⟩ record index world = (.ok applied, after) ↔
      record.className = className ∧
        upsert store deadline className record (upsertKey.getD idField) index world = (.ok applied, after) := by
  rw [applyRecord]
  split
  · next hclass =>
    refine ⟨fun h => ?_, fun h => absurd h.1 hclass⟩
    cases h
  · next hclass => rw [not_not.1 hclass, eq_self_iff_true, true_and]

/-- An upsert of one record that has succeeded succeeds again, whether each record stands alone or a transaction is made: it reports an update, and leaves all tables as they are. The record has a value in its key field by which it can be told apart, and the key column stores that value as it is. -/
theorem repeated_upsert_updates {mode : Mode} {registry : Registry} {c : ClassType} {target : String}
    {upsertKey : Option String} {report : Report} {before : World Database} (htarget : registry.resolve target = .ok c)
    (hdistinct : Tables.DistinctNames record.fields) (hkey : record.get? (upsertKey.getD idField) = some value)
    (hvalue : value.Identifies)
    (hstore : ∀ table column, before.state.find? c.name = some table →
      table.columns.find? (fun column => Text.sameName column.name (keyColumnOf (upsertKey.getD idField))) = some column →
        column.affinity.store value.cell = value.cell)
    (h : execute Tables.store mode deadline registry ⟨.upsert, target, [record], upsertKey⟩ before = (.ok report, after))
    (hsuccess : report.isSuccess = true) :
    deadline.interruption? after.clock = none ∧
      ∀ (later : Deadline) (again : World Database), again.state = after.state →
        later.interruption? again.clock = none →
          ∃ applied final, execute Tables.store mode later registry ⟨.upsert, target, [record], upsertKey⟩ again =
              (.ok ⟨[.ok applied]⟩, final) ∧
            applied.operation = .update ∧ final.state.tables = after.state.tables := by
  rw [execute, htarget] at h
  obtain ⟨hnames, start, done, applied, hencloses, happlied⟩ := enclosed_of_executeFor rfl h hsuccess
  obtain ⟨hclock, htables, hafter, hkept, hclosed⟩ := hencloses.tables
  obtain ⟨hclass, hupsert⟩ := applyRecord_upsert_iff.1 happlied
  obtain ⟨hdeadline, hdone, lookup, table, hlookup, htable, hid, hcolumn, htook⟩ := took_of_upsert hkey hupsert
  have hbefore : before.state.find? c.name = some table := by rw [← Database.find?_congr htables, htable]
  obtain ⟨⟨update?, hupdate⟩, held, hheld⟩ :=
    htook.held hdistinct hkey hvalue hlookup htable hid hcolumn fun column => hstore table column hbefore
  refine ⟨?_, fun later again hagain hlater => ?_⟩
  · rw [hafter, hdone]
    exact hdeadline
  · have hsaved : mode = .atomic → again.state.saved = none := fun hmode => by rw [hagain, hclosed hmode]
    obtain ⟨opened, hopenedClock, hopened, hends⟩ := exists_encloses hlater hsaved
    have hsame : opened.state.tables = done.state.tables := by rw [hopened, hagain, hkept]
    have hlaterOpened : later.interruption? opened.clock = none := by rw [hopenedClock, hlater]
    obtain ⟨repeated, ended, hrepeated, hoperation, hendedClock, hended, hendedSaved⟩ :=
      upsert_of_held (hheld.of_tables_eq hsame) hkey hlookup hupdate hlaterOpened
    obtain ⟨final, hfinal⟩ := hends ended hendedClock hendedSaved
    obtain ⟨-, -, -, hlast, -⟩ := hfinal.tables
    refine ⟨repeated, final, ?_, hoperation, ?_⟩
    · rw [execute, htarget]
      exact executeFor_of_enclosed rfl hnames hfinal (applyRecord_upsert_iff.2 ⟨hclass, hrepeated⟩)
    · rw [hlast, hended, hopened, hagain]

def itemTable : Table where
  name := "item"
  columns := [⟨"id", .text, true⟩, ⟨"code", .integer, false⟩, ⟨"label", .text, false⟩]
  rows := [[.text "a", .integer 7, .text "old"], [.text "b", .integer 7, .null]]

def itemWorld : World Database := ⟨⟨0, [], 1⟩, ⟨[itemTable], none, 0⟩⟩

/-- An upsert by a code that no row of the table has. -/
def newItem : Intent :=
  ⟨.upsert, "Item", [⟨"Item", [("Id", .string "c"), ("Code", .integer 9), ("Label", .string "it's")]⟩], some "Code"⟩

theorem repeated_item_updates : ∃ report after applied final,
    execute Tables.store .atomic ⟨none, 0⟩ ⟨[ClassType.bare "Item"]⟩ newItem itemWorld = (.ok report, after) ∧
      report.isSuccess = true ∧
      execute Tables.store .atomic ⟨none, 0⟩ ⟨[ClassType.bare "Item"]⟩ newItem after = (.ok ⟨[.ok applied]⟩, final) ∧
      applied.operation = .update ∧ final.state.tables = after.state.tables := by
  have hsuccess : ((execute Tables.store .atomic ⟨none, 0⟩ ⟨[ClassType.bare "Item"]⟩ newItem itemWorld).1.map
      Report.isSuccess).toOption = some true := by decide +kernel
  rcases hexecute : execute Tables.store .atomic ⟨none, 0⟩ ⟨[ClassType.bare "Item"]⟩ newItem itemWorld
    with ⟨e | report, after⟩
  · rw [hexecute] at hsuccess
    cases hsuccess
  · rw [hexecute] at hsuccess
    have hreport : report.isSuccess = true := Option.some.inj hsuccess
    have htarget : (⟨[ClassType.bare "Item"]⟩ : Registry).resolve "Item" = .ok (ClassType.bare "Item") := rfl
    have hdistinct : Tables.DistinctNames [("Id", .string "c"), ("Code", .integer 9), ("Label", .string "it's")] := by
      rw [Tables.DistinctNames]
      decide
    have hkey : (⟨"Item", [("Id", .string "c"), ("Code", .integer 9), ("Label", .string "it's")]⟩ : Record).get?
        ((some "Code").getD idField) = some (.integer 9) := rfl
    have hstore : ∀ table column, itemWorld.state.find? (ClassType.bare "Item").name = some table →
        table.columns.find? (fun column => Text.sameName column.name (keyColumnOf ((some "Code").getD idField))) =
          some column → column.affinity.store (Value.integer 9).cell = (Value.integer 9).cell := by
      intro table column htable hcolumn
      cases htable
      cases hcolumn
      rfl
    obtain ⟨hdeadline, hagain⟩ := repeated_upsert_updates htarget hdistinct hkey trivial hstore hexecute hreport
    obtain ⟨applied, final, hrepeated, hoperation, htables⟩ := hagain ⟨none, 0⟩ after rfl hdeadline
    exact ⟨report, after, applied, final, rfl, hreport, hrepeated, hoperation, htables⟩

end ObjectStore.Dml
