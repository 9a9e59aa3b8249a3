import ObjectStore.Dml.Compile
import ObjectStore.Proofs.Results
import ObjectStore.Proofs.Sql.Identifier
import ObjectStore.Proofs.Sql.Literals
import ObjectStore.Proofs.Sql.Statements

/-!
# What statements for records ask for

Whoever reads the text of a statement for a record finds a request: an operation on one table with names and values. The request is the one that the record calls for, whatever characters its values hold, and the request to change or delete rows always names one column and the value that identifies the record.
-/

namespace ObjectStore.Dml

/-- What a statement for a record asks of the store, its literals being evaluated. -/
inductive Request where
  | insert (table : String) (fields : List (String × Value))
  | insertDefaults (table : String)
  /-- New values for the rows with the given value in a column. -/
  | update (table : String) (fields : List (String × Value)) (column : String) (key : Value)
  | delete (table : String) (column : String) (key : Value)
  /-- The key of one row with the given value in a column. -/
  | find (table : String) (column : String) (key : Value)

/-- The names with the values of their literals. -/
def fields? (assigned : List (String × Sql.Expr)) : Option (List (String × Value)) :=
  assigned.mapM fun (name, literal) => literal.value?.map (name, ·)

/-- A filter that is one equality of a column and a literal. -/
def key? : Sql.Expr → Option (String × Value)
  | .compare .equal (.column none column) literal => literal.value?.map (column, ·)
  | _ => none

/-- The request of a statement of one of the expected forms. -/
def Request.ofStatement? : Sql.Statement → Option Request
  | .insert false table columns [row] =>
    if columns.length = row.length then (fields? (columns.zip row)).map (insert table) else none
  | .insertDefaults table => some (insertDefaults table)
  | .update table assignments (some filter) =>
    (fields? assignments).bind fun fields => (key? filter).map fun (column, key) => update table fields column key
  | .delete table (some filter) => (key? filter).map fun (column, key) => delete table column key
  | .select ⟨[.column none item], some ⟨table, []⟩, some filter, [], some ⟨1, none⟩⟩ =>
    if item = idColumn then (key? filter).map fun (column, key) => find table column key else none
  | _ => none

/-- The request that a text is, if it is exactly one statement of an expected form. -/
def Request.read? (sql : String) : Option Request :=
  (Sql.Statement.read? sql).bind ofStatement?

theorem key?_eq_some {filter : Sql.Expr} {column : String} {value : Value} (h : key? filter = some (column, value)) :
    ∃ literal, filter = keyCondition column literal ∧ literal.value? = some value := by
  unfold key? at h
  split at h
  · next written literal =>
    obtain ⟨found, hvalue, heq⟩ := Option.map_eq_some_iff.1 h
    cases heq
    exact ⟨literal, rfl, hvalue⟩
  · cases h

/-- A statement has the form of a request, with literals for the request's values. -/
def Request.Says (s : Sql.Statement) : Request → Prop
  | insert table fields => ∃ columns row, s = .insert false table columns [row] ∧ columns.length = row.length ∧
      fields? (columns.zip row) = some fields
  | insertDefaults table => s = .insertDefaults table
  | update table fields column key => ∃ assignments literal,
      s = .update table assignments (some (keyCondition column literal)) ∧ fields? assignments = some fields ∧
        literal.value? = some key
  | delete table column key => ∃ literal, s = .delete table (some (keyCondition column literal)) ∧
      literal.value? = some key
  | find table column key => ∃ literal, s = .select ⟨[.column none idColumn], some ⟨table, []⟩,
      some (keyCondition column literal), [], some ⟨1, none⟩⟩ ∧ literal.value? = some key

theorem Request.says_of_statement {s : Sql.Statement} {request : Request} (h : ofStatement? s = some request) :
    request.Says s := by
  unfold ofStatement? at h
  split at h
  · next table columns row =>
    split at h
    · next hlength =>
      obtain ⟨fields, hfields, rfl⟩ := Option.map_eq_some_iff.1 h
      exact ⟨columns, row, rfl, hlength, hfields⟩
    · cases h
  · cases h
    exact rfl
  · next table assignments filter =>
    obtain ⟨fields, hfields, h⟩ := Option.bind_eq_some_iff.1 h
    obtain ⟨⟨column, key⟩, hkey, rfl⟩ := Option.map_eq_some_iff.1 h
    obtain ⟨literal, rfl, hvalue⟩ := key?_eq_some hkey
    exact ⟨assignments, literal, rfl, hfields, hvalue⟩
  · next table filter =>
    obtain ⟨⟨column, key⟩, hkey, rfl⟩ := Option.map_eq_some_iff.1 h
    obtain ⟨literal, rfl, hvalue⟩ := key?_eq_some hkey
    exact ⟨literal, rfl, hvalue⟩
  · next item table filter =>
    split at h
    · next hitem =>
      obtain ⟨⟨column, key⟩, hkey, rfl⟩ := Option.map_eq_some_iff.1 h
      obtain ⟨literal, rfl, hvalue⟩ := key?_eq_some hkey
      subst hitem
      exact ⟨literal, rfl, hvalue⟩
    · cases h
  · cases h

theorem Request.says_of_read? {sql : String} {request : Request} (h : read? sql = some request) :
    ∃ s, Sql.Statement.read? sql = some s ∧ request.Says s := by
  obtain ⟨s, hread, hs⟩ := Option.bind_eq_some_iff.1 h
  exact ⟨s, hread, says_of_statement hs⟩

theorem requiredKey_eq_ok {className field : String} {record : Record} {index : Nat} {value : Value}
    (h : requiredKey className record field index = .ok value) :
    record.get? field = some value ∧ value.isNull = false := by
  rw [requiredKey] at h
  split at h
  · next found hfound =>
    split at h
    · cases h
    · next hnull =>
      cases h
      exact ⟨hfound, Bool.eq_false_iff.2 hnull⟩
  · cases h

/-- Columns with literals of the values of fields. -/
def Assigns (fields : List (String × Value)) (assigned : List (String × Sql.Expr)) : Prop :=
  List.Forall₂ (fun field a => a.1 = field.1 ∧ Text.isIdentifier a.1 = true ∧ a.2.Denotes field.2) fields assigned

theorem assigns_of_assignments {record : Record} {skipped : List String} {assigned : List (String × Sql.Expr)}
    (h : assignments record skipped = .ok assigned) : Assigns (writtenFields record skipped) assigned := by
  apply (forall₂_of_mapM h).imp
  intro field a hstep
  obtain ⟨column, hcolumn, hstep⟩ := bind_eq_ok.1 hstep
  obtain ⟨literal, hliteral, hstep⟩ := bind_eq_ok.1 hstep
  cases hstep
  obtain ⟨hname, rfl⟩ := checkIdentifier_eq_ok hcolumn
  exact ⟨rfl, hname, Value.scalar_denotes hliteral⟩

namespace Assigns

variable {fields : List (String × Value)} {assigned : List (String × Sql.Expr)}

theorem isEmpty_eq (h : Assigns fields assigned) : fields.isEmpty = assigned.isEmpty := by
  cases h <;> rfl

theorem fields?_eq (h : Assigns fields assigned) : fields? assigned = some fields := by
  induction h with
  | nil => rfl
  | @cons field a fields assigned hstep _ ih =>
    obtain ⟨hname, -, hliteral⟩ := hstep
    obtain ⟨column, literal⟩ := a
    obtain ⟨name, value⟩ := field
    subst hname
    have hvalue : literal.value? = some value := hliteral.value_eq
    rw [fields?, List.mapM_cons, ← fields?, ih]
    change (literal.value?.map _).bind _ = _
    rw [hvalue]
    rfl

theorem mem (h : Assigns fields assigned) {a : String × Sql.Expr} (ha : a ∈ assigned) :
    Text.isIdentifier a.1 = true ∧ ∃ value, a.2.Denotes value := by
  obtain ⟨field, -, -, hname, hliteral⟩ := exists_of_mem_forall₂ h ha
  exact ⟨hname, field.2, hliteral⟩

theorem phrase (h : Assigns fields assigned) {a : String × Sql.Expr} (ha : a ∈ assigned) :
    Sql.Phrase .disjoined a.2 := by
  obtain ⟨-, value, hliteral⟩ := h.mem ha
  exact .ofConjoined (.ofNegated (.ofJoined hliteral.phrase))

theorem map_normalAssignment (h : Assigns fields assigned) : assigned.map Sql.normalAssignment = assigned := by
  refine (List.map_congr_left fun a ha => ?_).trans (List.map_id assigned)
  obtain ⟨-, value, hliteral⟩ := h.mem ha
  rw [Sql.normalAssignment, hliteral.normal_eq]
  rfl

theorem map_normal (h : Assigns fields assigned) : (assigned.map Prod.snd).map Sql.Expr.normal = assigned.map Prod.snd := by
  have hsnd := congrArg (List.map Prod.snd) h.map_normalAssignment
  rwa [List.map_map] at hsnd ⊢

end Assigns

theorem keyCondition_spec {column : String} {literal : Sql.Expr} {value : Value} (hcolumn : Text.isIdentifier column = true)
    (hliteral : literal.Denotes value) :
    Sql.Phrase .disjoined (keyCondition column literal) ∧
      (keyCondition column literal).normal = keyCondition column literal ∧
      key? (keyCondition column literal) = some (column, value) := by
  refine ⟨?_, ?_, ?_⟩
  · exact .ofConjoined (.ofNegated (.compareNamed .equal (by decide) hcolumn hliteral.phrase))
  · rw [keyCondition, Sql.Expr.normal, hliteral.normal_eq]
    rfl
  · rw [keyCondition, key?, hliteral.value_eq]
    rfl

/-! ### The five statements -/

/-- The fields that have a value, in order. -/
def present (record : Record) : List (String × Value) :=
  record.fields.filter fun field => !field.2.isNull

theorem writtenFields_eq (record : Record) (skipped : List String) :
    writtenFields record skipped = (present record).filter fun field => !skipped.any (Text.sameName · field.1) := by
  rw [writtenFields, present, List.filter_filter]
  apply List.filter_congr
  intro field _
  exact Bool.and_comm _ _

variable {className : String} {record : Record} {index : Nat}

theorem read?_insertStatement {s : Sql.Statement} (h : insertStatement className record = .ok s) :
    Request.read? s.render =
      some (if (present record).isEmpty then .insertDefaults className else .insert className (present record)) := by
  simp only [insertStatement, bind_eq_ok] at h
  obtain ⟨table, htable, assigned, hassigned, h⟩ := h
  obtain ⟨hname, rfl⟩ := checkIdentifier_eq_ok htable
  have hassigns := assigns_of_assignments hassigned
  have hfields : writtenFields record [] = present record := by
    rw [writtenFields_eq]
    exact List.filter_eq_self.2 fun _ _ => rfl
  rw [hfields] at hassigns
  cases assigned with
  | nil =>
    cases h
    rw [Request.read?, Sql.Statement.read?_insertDefaults hname, hassigns.isEmpty_eq]
    rfl
  | cons first others =>
    cases h
    have hcolumns : ∀ column ∈ (first :: others).map Prod.fst, Text.isIdentifier column = true := by
      intro column hcolumn
      obtain ⟨a, ha, rfl⟩ := List.mem_map.1 hcolumn
      exact (hassigns.mem ha).1
    have hrow : ∀ row ∈ [(first :: others).map Prod.snd], row ≠ [] ∧ ∀ e ∈ row, Sql.Phrase .disjoined e := by
      intro row hrow
      obtain rfl := List.mem_singleton.1 hrow
      refine ⟨List.cons_ne_nil _ _, fun e he => ?_⟩
      obtain ⟨a, ha, rfl⟩ := List.mem_map.1 he
      exact hassigns.phrase ha
    rw [Request.read?, Sql.Statement.read?_insert hname hcolumns (List.cons_ne_nil _ _) hrow (List.cons_ne_nil _ _),
      List.map_singleton, hassigns.map_normal, hassigns.isEmpty_eq]
    change (if _ then (fields? _).map _ else none) = _
    have hzip : ((first :: others).map Prod.fst).zip ((first :: others).map Prod.snd) = first :: others := by
      have h := List.zip_unzip (first :: others)
      rwa [List.unzip_eq_map] at h
    rw [if_pos (by rw [List.length_map, List.length_map]), hzip, hassigns.fields?_eq]
    rfl

private theorem read?_updateOf {fields : List (String × Value)} {assigned : List (String × Sql.Expr)} {column : String}
    {literal : Sql.Expr} {key : Value} (hname : Text.isIdentifier className = true) (hassigns : Assigns fields assigned)
    (hne : assigned ≠ []) (hcolumn : Text.isIdentifier column = true) (hliteral : literal.Denotes key) :
    Request.read? (Sql.Statement.update className assigned (some (keyCondition column literal))).render =
      some (.update className fields column key) := by
  obtain ⟨hphrase, hnormal, hkey⟩ := keyCondition_spec hcolumn hliteral
  have hfilter : ∀ e ∈ some (keyCondition column literal), Sql.Phrase .disjoined e := by
    intro e he
    cases he
    exact hphrase
  have hread := Sql.Statement.read?_update hname hne (fun a ha => ⟨(hassigns.mem ha).1, hassigns.phrase ha⟩) hfilter
  rw [hassigns.map_normalAssignment, Option.map_some, hnormal] at hread
  rw [Request.read?, hread, Option.bind_some, Request.ofStatement?, hassigns.fields?_eq, hkey]
  rfl

theorem read?_updateStatement {s : Sql.Statement} (h : updateStatement className record index = .ok s) :
    ∃ id, record.get? idField = some id ∧ id.isNull = false ∧ Request.read? s.render =
      some (.update className ((present record).filter fun field => !Text.sameName idField field.1) idColumn id) := by
  simp only [updateStatement, bind_eq_ok, mapError_eq_ok] at h
  obtain ⟨table, htable, id, hid, assigned, hassigned, h⟩ := h
  obtain ⟨hname, rfl⟩ := checkIdentifier_eq_ok htable
  obtain ⟨hfound, hnull⟩ := requiredKey_eq_ok hid
  have hassigns := assigns_of_assignments hassigned
  cases hempty : assigned.isEmpty with
  | true =>
    rw [hempty] at h
    cases h
  | false =>
    rw [hempty] at h
    simp only [Bool.false_eq_true, if_false, bind_eq_ok, mapError_eq_ok] at h
    obtain ⟨literal, hliteral, h⟩ := h
    cases h
    have hdenotes := Value.scalar_denotes hliteral
    have hne : assigned ≠ [] := List.isEmpty_eq_false_iff.1 hempty
    refine ⟨id, hfound, hnull, ?_⟩
    rw [read?_updateOf hname hassigns hne (by decide) hdenotes, writtenFields_eq]
    simp

theorem read?_deleteStatement {s : Sql.Statement} (h : deleteStatement className record index = .ok s) :
    ∃ id, record.get? idField = some id ∧ id.isNull = false ∧
      Request.read? s.render = some (.delete className idColumn id) := by
  simp only [deleteStatement, bind_eq_ok, mapError_eq_ok] at h
  obtain ⟨table, htable, id, hid, literal, hliteral, h⟩ := h
  cases h
  obtain ⟨hname, rfl⟩ := checkIdentifier_eq_ok htable
  obtain ⟨hfound, hnull⟩ := requiredKey_eq_ok hid
  have hidColumn : Text.isIdentifier idColumn = true := by decide
  obtain ⟨hphrase, hnormal, hkey⟩ := keyCondition_spec hidColumn (Value.scalar_denotes hliteral)
  have hfilter : ∀ e ∈ some (keyCondition idColumn literal), Sql.Phrase .disjoined e := by
    intro e he
    cases he
    exact hphrase
  refine ⟨id, hfound, hnull, ?_⟩
  rw [Request.read?, Sql.Statement.read?_delete hname hfilter, Option.map_some, hnormal, Option.bind_some,
    Request.ofStatement?, hkey]
  rfl

/-- The column that is asked for the value of a key field. -/
def keyColumnOf (key : String) : String := if Text.sameName key idField then idColumn else key

theorem read?_lookupStatement {key : String} {s : Sql.Statement} (h : lookupStatement className record key index = .ok s) :
    ∃ value, record.get? key = some value ∧ value.isNull = false ∧
      Request.read? s.render = some (.find className (keyColumnOf key) value) := by
  simp only [lookupStatement, bind_eq_ok, mapError_eq_ok] at h
  obtain ⟨table, htable, value, hvalue, column, hcolumn, literal, hliteral, h⟩ := h
  cases h
  obtain ⟨hname, rfl⟩ := checkIdentifier_eq_ok htable
  obtain ⟨hfound, hnull⟩ := requiredKey_eq_ok hvalue
  obtain ⟨hidentifier, hcolumnOf⟩ := keyColumn_eq_ok hcolumn
  obtain ⟨hphrase, hnormal, hkey⟩ := keyCondition_spec hidentifier (Value.scalar_denotes hliteral)
  have hplain : Sql.isPlainName idColumn = true := by decide
  have hreadable : Sql.Select.Readable ⟨[.column none idColumn], some ⟨table, []⟩, some (keyCondition column literal), [],
      some ⟨1, none⟩⟩ :=
    { items_ne_nil := List.cons_ne_nil _ _
      items := fun item hitem => by
        obtain rfl := List.mem_singleton.1 hitem
        exact Sql.Phrase.disjoined_of_operand (.plain hplain)
      table := fun source hsource => by
        cases hsource
        exact hname
      joins := fun source hsource join hjoin => by
        cases hsource
        cases hjoin
      filter := fun e he => by
        cases he
        exact hphrase
      order := fun term hterm => by cases hterm }
  refine ⟨value, hfound, hnull, ?_⟩
  rw [Request.read?, Sql.Statement.read?_select hreadable, Option.bind_some, Sql.Select.normal, Option.map_some,
    Option.map_some, hnormal]
  change (if idColumn = idColumn then (key? _).map _ else none) = _
  rw [if_pos rfl, hkey, hcolumnOf]
  rfl

theorem read?_upsertStatement? {key : String} {s : Sql.Statement}
    (h : upsertStatement? className record key index = .ok (some s)) :
    ∃ value, record.get? key = some value ∧ value.isNull = false ∧ Request.read? s.render =
      some (.update className ((present record).filter fun field =>
        !Text.sameName idField field.1 && !Text.sameName key field.1) (keyColumnOf key) value) := by
  simp only [upsertStatement?, bind_eq_ok, mapError_eq_ok] at h
  obtain ⟨table, htable, value, hvalue, assigned, hassigned, h⟩ := h
  obtain ⟨hname, rfl⟩ := checkIdentifier_eq_ok htable
  obtain ⟨hfound, hnull⟩ := requiredKey_eq_ok hvalue
  have hassigns := assigns_of_assignments hassigned
  cases hempty : assigned.isEmpty with
  | true =>
    rw [hempty] at h
    cases h
  | false =>
    rw [hempty] at h
    simp only [Bool.false_eq_true, if_false, bind_eq_ok, mapError_eq_ok] at h
    obtain ⟨column, hcolumn, literal, hliteral, h⟩ := h
    cases h
    obtain ⟨hidentifier, rfl⟩ := keyColumn_eq_ok hcolumn
    have hdenotes := Value.scalar_denotes hliteral
    have hne : assigned ≠ [] := List.isEmpty_eq_false_iff.1 hempty
    refine ⟨value, hfound, hnull, ?_⟩
    rw [read?_updateOf hname hassigns hne hidentifier hdenotes, writtenFields_eq]
    simp [keyColumnOf]

/-! ### Every statement is its request -/

/-- The text of each statement for a record is read as exactly one statement of its form: on the table of the class, with the fields that have a value in their order and nothing else, and restricted by the record's own key wherever rows are changed, deleted or looked for. -/
theorem request_of_statement (className : String) (record : Record) (key : String) (index : Nat) :
    (∀ s, insertStatement className record = .ok s → Request.read? s.render =
      some (if (present record).isEmpty then .insertDefaults className else .insert className (present record))) ∧
    (∀ s, updateStatement className record index = .ok s →
      ∃ id, record.get? idField = some id ∧ id.isNull = false ∧ Request.read? s.render =
        some (.update className ((present record).filter fun field => !Text.sameName idField field.1) idColumn id)) ∧
    (∀ s, deleteStatement className record index = .ok s →
      ∃ id, record.get? idField = some id ∧ id.isNull = false ∧
        Request.read? s.render = some (.delete className idColumn id)) ∧
    (∀ s, lookupStatement className record key index = .ok s →
      ∃ value, record.get? key = some value ∧ value.isNull = false ∧
        Request.read? s.render = some (.find className (keyColumnOf key) value)) ∧
    (∀ s, upsertStatement? className record key index = .ok (some s) →
      ∃ value, record.get? key = some value ∧ value.isNull = false ∧ Request.read? s.render =
        some (.update className ((present record).filter fun field =>
          !Text.sameName idField field.1 && !Text.sameName key field.1) (keyColumnOf key) value)) :=
  ⟨fun _ => read?_insertStatement, fun _ => read?_updateStatement, fun _ => read?_deleteStatement,
    fun _ => read?_lookupStatement, fun _ => read?_upsertStatement?⟩

/-- A record whose texts hold quotes, control characters and pieces of statements. -/
def hostileRecord : Record :=
  ⟨"Account", [("Id", .string "1' OR '1'='1"), ("Name", .string "'; DROP TABLE Account; --"), ("Note", .null),
    ("Memo", .string "a\nb\x00c")]⟩

theorem request_of_hostile_record :
    (∃ s, insertStatement "Account" hostileRecord = .ok s ∧ Request.read? s.render = some (.insert "Account"
      [("Id", .string "1' OR '1'='1"), ("Name", .string "'; DROP TABLE Account; --"), ("Memo", .string "a\nb\x00c")])) ∧
    (∃ s, updateStatement "Account" hostileRecord 0 = .ok s ∧ Request.read? s.render = some (.update "Account"
      [("Name", .string "'; DROP TABLE Account; --"), ("Memo", .string "a\nb\x00c")] "id" (.string "1' OR '1'='1"))) ∧
    (∃ s, deleteStatement "Account" hostileRecord 0 = .ok s ∧
      Request.read? s.render = some (.delete "Account" "id" (.string "1' OR '1'='1"))) ∧
    (∃ s, lookupStatement "Account" hostileRecord "Memo" 0 = .ok s ∧
      Request.read? s.render = some (.find "Account" "Memo" (.string "a\nb\x00c"))) ∧
    (∃ s, upsertStatement? "Account" hostileRecord "Memo" 0 = .ok (some s) ∧ Request.read? s.render = some (.update "Account"
      [("Name", .string "'; DROP TABLE Account; --")] "Memo" (.string "a\nb\x00c"))) := by
  obtain ⟨hinsert, hupdate, hdelete, hlookup, hupsert⟩ := request_of_statement "Account" hostileRecord "Memo" 0
  refine ⟨⟨_, rfl, hinsert _ rfl⟩, ⟨_, rfl, ?_⟩, ⟨_, rfl, ?_⟩, ⟨_, rfl, ?_⟩, ⟨_, rfl, ?_⟩⟩
  · obtain ⟨id, hid, -, hread⟩ := hupdate _ rfl
    cases hid
    exact hread
  · obtain ⟨id, hid, -, hread⟩ := hdelete _ rfl
    cases hid
    exact hread
  · obtain ⟨value, hvalue, -, hread⟩ := hlookup _ rfl
    cases hvalue
    exact hread
  · obtain ⟨value, hvalue, -, hread⟩ := hupsert _ rfl
    cases hvalue
    exact hread

end ObjectStore.Dml
