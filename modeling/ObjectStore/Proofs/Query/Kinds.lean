import ObjectStore.Proofs.Query.Trees

/-!
# Kinds of the values in records

A column is converted to the kind that is declared for its field, or has one of the kinds of stored values if none is declared; it is null if and only if the cell is. The class that declares the kind is the one that the relations of the path lead to, and the record that stands there is of this class. So in whatever order columns are placed, and even where they are placed over each other, a record holds only values of the kinds that its class declares and records of the classes that the relations name. A conversion that fails names the path of its own column.
-/

namespace ObjectStore

/-! ### Kinds -/

/-- Whether a field of the kind may have the value. Nothing but null is read for a list. -/
def FieldType.holds : FieldType → Value → Bool
  | _, .null => true
  | .string, .string _ => true
  | .id, .string _ => true
  | .reference _, .string _ => true
  | .integer, .integer _ => true
  | .double, .double _ => true
  | .boolean, .boolean _ => true
  | _, _ => false

/-- Whether a value is one that the store has: absent, a number or a text. -/
def Value.isStored : Value → Bool
  | null => true
  | integer _ => true
  | double _ => true
  | string _ => true
  | _ => false

/-- Whether the value is of the kind that is declared for its field, or, without one, a stored value. -/
def Value.suits (declared : Option FieldType) (value : Value) : Bool :=
  match declared with
  | some fieldType => fieldType.holds value
  | none => value.isStored

namespace Cell

variable {cell : Cell} {declared : Option FieldType} {field : String} {value : Value}

private theorem kind_of_orElse {α : Type} {found : String} {read : Option α} {make : α → Value} {kind : Value → Bool}
    (hmake : ∀ a, kind (make a) = true ∧ make a ≠ .null) (h : convertAs.orElse found (read.map make) = .ok value) :
    kind value = true ∧ value ≠ .null := by
  cases read with
  | none => cases h
  | some a =>
    cases h
    exact hmake a

private theorem kind_of_asText {kind : Value → Bool} (hkind : ∀ s, kind (.string s) = true)
    (h : convertAs.asText cell = .ok value) : kind value = true ∧ value ≠ .null := by
  cases cell <;> cases h <;> exact ⟨hkind _, by rintro ⟨⟩⟩

/-- A cell becomes a value of the declared kind, and nothing but an absent cell becomes null. -/
theorem convertAs_kind {fieldType : FieldType} (h : convertAs fieldType cell = .ok value) :
    fieldType.holds value = true ∧ (value = .null ↔ cell = .null) := by
  have hpresent : fieldType.holds value = true ∧ value ≠ .null → cell ≠ .null →
      fieldType.holds value = true ∧ (value = .null ↔ cell = .null) :=
    fun hkind hcell => ⟨hkind.1, iff_of_false hkind.2 hcell⟩
  rw [convertAs.eq_def] at h
  split at h
  -- absent, read from a text or a number, a text, refused, and kept as it is
  case h_1 =>
    cases h
    exact ⟨by cases fieldType <;> rfl, iff_of_true rfl rfl⟩
  case h_3 | h_4 | h_7 | h_9 => exact hpresent (kind_of_orElse (fun _ => ⟨rfl, by rintro ⟨⟩⟩) h) (by rintro ⟨⟩)
  case h_10 hcell | h_11 hcell | h_12 hcell => exact hpresent (kind_of_asText (fun _ => rfl) h) hcell
  case h_13 => cases h
  all_goals
    cases h
    exact hpresent ⟨rfl, by rintro ⟨⟩⟩ (by rintro ⟨⟩)

theorem undeclared_kind (hbytes : ∀ bytes, cell ≠ .blob bytes) :
    cell.undeclared.isStored = true ∧ (cell.undeclared = .null ↔ cell = .null) := by
  cases cell with
  | null => exact ⟨rfl, iff_of_true rfl rfl⟩
  | blob bytes => exact absurd rfl (hbytes bytes)
  | _ => exact ⟨rfl, iff_of_false (by rintro ⟨⟩) (by rintro ⟨⟩)⟩

theorem decoded_kind {other : Cell} (h : cell.decoded = some other) :
    (∀ bytes, other ≠ .blob bytes) ∧ (other = .null ↔ cell = .null) := by
  cases cell with
  | blob bytes =>
    obtain ⟨s, -, hs⟩ := Option.map_eq_some_iff.1 h
    subst hs
    exact ⟨by rintro _ ⟨⟩, iff_of_false (by rintro ⟨⟩) (by rintro ⟨⟩)⟩
  | _ =>
    cases h
    exact ⟨by rintro _ ⟨⟩, Iff.rfl⟩

/-- A column has a value of the declared kind, or a stored value if no kind is declared, and null exactly for an absent cell. -/
theorem convert_kind (h : cell.convert declared field = .ok value) :
    value.suits declared = true ∧ (value = .null ↔ cell = .null) := by
  rw [convert.eq_def] at h
  split at h
  · cases h
  · next decoded hdecoded =>
    obtain ⟨hbytes, hnull⟩ := decoded_kind hdecoded
    cases h
    obtain ⟨hstored, hvalue⟩ := undeclared_kind hbytes
    exact ⟨hstored, hvalue.trans hnull⟩
  · next decoded fieldType hdecoded =>
    obtain ⟨-, hnull⟩ := decoded_kind hdecoded
    split at h
    · next hconvert =>
      cases h
      obtain ⟨hholds, hvalue⟩ := convertAs_kind hconvert
      exact ⟨hholds, hvalue.trans hnull⟩
    · cases h

theorem convert_eq_null_iff (cell : Cell) (declared : Option FieldType) (field : String) :
    cell.convert declared field = .ok .null ↔ cell = .null := by
  constructor
  · exact fun h => (convert_kind h).2.1 rfl
  · rintro rfl
    cases declared with
    | none => rfl
    | some fieldType => cases fieldType <;> rfl

/-- A conversion that fails blames its own field. -/
theorem field_of_convert_eq_error {e : ConversionError} (h : cell.convert declared field = .error e) : e.field = field := by
  rw [convert.eq_def] at h
  split at h
  · cases h
    rfl
  · cases h
  · split at h
    · cases h
    · cases h
      rfl

end Cell

/-! ### Records -/

namespace Registry

/-- What a field of a record may have, if the record is of class `owner` and stands at the end of the relations: the value of a column that ends there, of the kind that the class declares, or a record of the class that a path leads to from there. -/
inductive Allowed (registry : Registry) (projection : List FieldPath) (owner : ClassType) (relations : List String)
    (name : String) : Value → Prop where
  | column {value : Value} (hpath : ⟨relations ++ [name]⟩ ∈ projection)
      (hsuits : value.suits (owner.fieldType? name) = true) : Allowed registry projection owner relations name value
  | relation {path : FieldPath} {c : ClassType} (inner : List (String × Value)) (hpath : path ∈ projection)
      (hpasses : relations ++ [name] <+: path.relations) (hlookup : registry.lookup? name = some c) :
      Allowed registry projection owner relations name (.object c.name inner)

/-- Every record of the tree is of the class that its relations lead to, and has only fields that this class allows, each of them once. -/
def WellKinded (registry : Registry) (target : ClassType) (projection : List FieldPath) (record : Record) : Prop :=
  ∀ relations nested, record.follow? relations = some nested → ∃ owner, registry.reach? target relations = some owner ∧
    nested.className = owner.name ∧ nested.names.Nodup ∧
    ∀ field ∈ nested.fields, registry.Allowed projection owner relations field.1 field.2

variable {registry : Registry} {target : ClassType} {projection : List FieldPath} {row : Row} {record : Record}

/-- A column of a row, with its value, as the class at the end of its relations declares it. -/
theorem suits_of_placed {values : List Value} (hwidth : row.length = projection.length)
    (hvalues : List.Forall₂ (fun column value => registry.columnValue target column = .ok value) (projection.zip row) values)
    {relations : List String} {name : String} {value : Value} {owner : ClassType}
    (hreach : registry.reach? target relations = some owner)
    (h : (⟨relations ++ [name]⟩, value) ∈ projection.zip values) : value.suits (owner.fieldType? name) = true := by
  rw [zip_values values hwidth] at h
  obtain ⟨⟨⟨path, cell⟩, value⟩, hentry, heq⟩ := List.mem_map.1 h
  cases heq
  have hcolumn := (List.forall₂_iff_zip.1 hvalues).2 hentry
  have hrelations : (⟨relations ++ [name]⟩ : FieldPath).relations = relations := List.dropLast_concat
  rw [columnValue_eq List.getLast?_concat (hrelations.symm ▸ hreach)] at hcolumn
  exact (Cell.convert_kind hcolumn).1

/-- A row becomes a tree in which every field is of its kind, also if columns are placed over each other. -/
theorem Becomes.wellKinded (h : registry.Becomes target projection row record)
    (hreached : registry.Reached target projection) : registry.WellKinded target projection record := by
  obtain ⟨values, hvalues, hfields⟩ := h.fields
  have hleft : Fields.Left (projection.zip values) record.fields := by
    rw [hfields]
    apply Fields.left_putAll _ _ (isScalar_of_converts hvalues)
    intro entry hentry
    obtain ⟨leaf, -, hleaf, -⟩ := hreached entry.1 (List.of_mem_zip hentry).1
    exact ⟨leaf, hleaf⟩
  intro relations nested hnested
  obtain ⟨owner, howner, hclass⟩ := class_of_follow? hleft hreached h.className hnested
  have hnames := hleft.nodup relations
  rw [← Record.fields_of_follow? hnested] at hnames
  refine ⟨owner, howner, hclass, hnames, fun field hfield => ?_⟩
  obtain ⟨name, value⟩ := field
  have hlookup := Fields.lookup_of_mem hnames hfield
  rw [Record.fields_of_follow? hnested] at hlookup
  cases hleft.stands relations name value hlookup with
  | column _ hmem => exact .column (List.of_mem_zip hmem).1 (suits_of_placed h.width hvalues howner hmem)
  | @relation entry inner hmem hstarts =>
    obtain ⟨c, hc⟩ := hreached.exists_reach? (List.of_mem_zip hmem).1 hstarts
    have hregistered := lookup?_of_reach? hc
    have hallowed : registry.Allowed projection owner relations name (.object c.name inner) :=
      .relation inner (List.of_mem_zip hmem).1 hstarts hregistered
    rwa [name_of_lookup? hregistered] at hallowed

/-! ### Failed conversions -/

/-- The conversion of the column fails, to the kind that the class at the end of its relations declares. -/
def Misconverts (registry : Registry) (target : ClassType) (column : FieldPath × Cell) (e : ConversionError) : Prop :=
  ∃ leaf owner, column.1.leaf? = some leaf ∧ registry.reach? target column.1.relations = some owner ∧
    column.2.convert (owner.fieldType? leaf) column.1.display = .error e

theorem Misconverts.field_eq {column : FieldPath × Cell} {e : ConversionError} (h : registry.Misconverts target column e) :
    e.field = column.1.display := by
  obtain ⟨leaf, owner, -, -, hconvert⟩ := h
  exact Cell.field_of_convert_eq_error hconvert

theorem convert_of_place_eq_error {path : FieldPath} {leaf : String} {cell : Cell} {relations : List String}
    {owner : ClassType} {fields : List (String × Value)} {e : ConversionError}
    (h : registry.place path leaf cell owner relations fields = .error (.conversion e)) :
    ∃ last, registry.reach? owner relations = some last ∧
      cell.convert (last.fieldType? leaf) path.display = .error e := by
  cases hreach : registry.reach? owner relations with
  | none =>
    obtain ⟨e', he⟩ := place_of_not_reach? hreach path leaf cell fields
    rw [he] at h
    cases h
  | some last =>
    rw [place_of_reach? hreach] at h
    split at h
    · cases h
    · next hconvert =>
      cases h
      exact ⟨last, rfl, hconvert⟩

theorem misconverts_of_placeColumns {index : Nat} {columns : List (FieldPath × Cell)} {fields : List (String × Value)}
    {e : ConversionError} (h : registry.placeColumns target index columns fields = .error (.conversion e)) :
    ∃ column ∈ columns, registry.Misconverts target column e := by
  induction columns generalizing index fields with
  | nil => cases h
  | cons column columns ih =>
    obtain ⟨path, cell⟩ := column
    rw [placeColumns] at h
    cases hleaf : path.leaf? with
    | none =>
      rw [hleaf] at h
      cases h
    | some leaf =>
      rw [hleaf] at h
      rcases bind_eq_error.1 h with hplace | ⟨_, -, hrest⟩
      · obtain ⟨owner, howner, hconvert⟩ := convert_of_place_eq_error hplace
        exact ⟨(path, cell), List.mem_cons_self, leaf, owner, hleaf, howner, hconvert⟩
      · obtain ⟨column, hcolumn, hfails⟩ := ih hrest
        exact ⟨column, List.mem_cons_of_mem _ hcolumn, hfails⟩

theorem misconverts_of_materializeRow {e : ConversionError}
    (h : registry.materializeRow target projection row = .error (.conversion e)) :
    ∃ column ∈ projection.zip row, registry.Misconverts target column e := by
  rw [materializeRow] at h
  split at h
  · cases h
  · rcases bind_eq_error.1 h with hcolumns | ⟨_, -, hrecord⟩
    · exact misconverts_of_placeColumns hcolumns
    · cases hrecord

/-- All records of a result hold only what their classes declare, whatever the projection. Absent cells, and no others, become null. And if a conversion fails, then that of a column whose whole path the error names. -/
theorem materialize_keeps_kinds (registry : Registry) (target : ClassType) (projection : List FieldPath) (rows : List Row) :
    (∀ records, registry.materialize target projection rows = .ok records →
      ∀ record ∈ records, registry.WellKinded target projection record) ∧
    (∀ (cell : Cell) (declared : Option FieldType) (field : String),
      cell.convert declared field = .ok .null ↔ cell = .null) ∧
    ∀ e, registry.materialize target projection rows = .error (.conversion e) →
      ∃ row ∈ rows, ∃ column ∈ projection.zip row,
        registry.Misconverts target column e ∧ e.field = column.1.display := by
  refine ⟨fun records h record hrecord => ?_, Cell.convert_eq_null_iff, fun e h => ?_⟩
  · obtain ⟨row, -, hrow⟩ := exists_of_mem_forall₂ (forall₂_of_mapM h) hrecord
    have hreached := reached_of_materializeRow hrow
    exact (materializeRow_eq_ok hreached hrow).2.wellKinded hreached
  · obtain ⟨row, hrow, hfault⟩ := exists_of_mapM_eq_error h
    obtain ⟨column, hcolumn, hfails⟩ := misconverts_of_materializeRow hfault
    exact ⟨row, hrow, column, hcolumn, hfails, hfails.field_eq⟩

end Registry

/-- Contacts declare their age, and accounts the number of their staff. -/
def staffRegistry : Registry :=
  ⟨[(ClassType.bare "Contact").withField "Age" .integer, (ClassType.bare "Account").withField "Staff" .integer]⟩

def agedContact : ClassType := (ClassType.bare "Contact").withField "Age" .integer

/-- A path that comes twice, and a field with paths through it before and after. -/
def staffPaths : List FieldPath :=
  [⟨["Account", "Name"]⟩, ⟨["Account"]⟩, ⟨["Age"]⟩, ⟨["Account", "Staff"]⟩, ⟨["Age"]⟩]

def staffRow : Row := [.text "Acme", .integer 7, .text "41", .real (.ofInt 12), .integer 42]

def unreadStaffRow : Row := [.text "Acme", .null, .null, .text "many", .text "old"]

/-- The name of the account is given up for its key, and the key for its staff. -/
def staffRecord : Record :=
  ⟨"Contact", [("Account", .object "Account" [("Staff", .integer 12)]), ("Age", .integer 42)]⟩

theorem staff_keeps_kinds :
    (staffRegistry.materialize agedContact staffPaths [staffRow] = .ok [staffRecord] ∧
      staffRegistry.WellKinded agedContact staffPaths staffRecord) ∧
    (staffRegistry.materialize agedContact staffPaths [staffRow, unreadStaffRow] =
        .error (.conversion ⟨"Account.Staff", "Integer", "TEXT 'many'"⟩) ∧
      ∃ row ∈ [staffRow, unreadStaffRow], ∃ column ∈ staffPaths.zip row,
        staffRegistry.Misconverts agedContact column ⟨"Account.Staff", "Integer", "TEXT 'many'"⟩ ∧
          "Account.Staff" = column.1.display) := by
  have hrecord : staffRegistry.materialize agedContact staffPaths [staffRow] = .ok [staffRecord] := rfl
  have hfault : staffRegistry.materialize agedContact staffPaths [staffRow, unreadStaffRow] =
      .error (.conversion ⟨"Account.Staff", "Integer", "TEXT 'many'"⟩) := rfl
  obtain ⟨hkinds, -, -⟩ := Registry.materialize_keeps_kinds staffRegistry agedContact staffPaths [staffRow]
  obtain ⟨-, -, hblame⟩ :=
    Registry.materialize_keeps_kinds staffRegistry agedContact staffPaths [staffRow, unreadStaffRow]
  exact ⟨⟨hrecord, hkinds _ hrecord _ List.mem_cons_self⟩, hfault, hblame _ hfault⟩

end ObjectStore
