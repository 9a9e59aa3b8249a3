import ObjectStore.Proofs.Fields
import ObjectStore.Proofs.Query.Compile
import ObjectStore.Proofs.Query.FieldPaths
import ObjectStore.Query.Materialize

/-!
# Where columns are placed

A column is placed by setting one field, in the record of a result or in a related record that comes into being on the way. What was placed elsewhere stays as it is, unless one path starts with the other: then the related record and the value of the shorter path are wanted in the same field, and only one of them can be there. So the columns of a row are all found again in its record exactly if no selected path starts with another one.
-/

namespace ObjectStore

/-! ### Fields -/

namespace Fields

/-- The fields of the related record in a field; anything else in its place is given up. -/
def related (relation : String) (fields : List (String × Value)) : List (String × Value) :=
  match fields.lookup relation with
  | some (.object _ related) => related
  | _ => []

theorem related_set_self (relation className : String) (inner fields : List (String × Value)) :
    related relation (set relation (.object className inner) fields) = inner := by
  rw [related, lookup_set_self]

theorem related_set_of_ne {relation name : String} (h : relation ≠ name) (value : Value) (fields : List (String × Value)) :
    related relation (set name value fields) = related relation fields := by
  rw [related, lookup_set_of_ne h, ← related]

/-- The fields with a value at the end of relations, each of which is a class. -/
def put : List String → String → Value → List (String × Value) → List (String × Value)
  | [], leaf, value, fields => set leaf value fields
  | relation :: rest, leaf, value, fields =>
    set relation (.object relation (put rest leaf value (related relation fields))) fields

/-- The fields with the values of columns at the ends of their paths. -/
def putAll : List (FieldPath × Value) → List (String × Value) → List (String × Value)
  | [], fields => fields
  | (path, value) :: rest, fields =>
    match path.leaf? with
    | some leaf => putAll rest (put path.relations leaf value fields)
    | none => putAll rest fields

end Fields

/-! ### Reading records -/

namespace Record

/-- The field at the end of relations. -/
def read? : List String → String → Record → Option Value
  | [], leaf, record => record.get? leaf
  | relation :: rest, leaf, record => (record.nested? relation).bind (read? rest leaf)

/-- The field that a path leads to. -/
def at? (record : Record) (path : FieldPath) : Option Value :=
  path.leaf?.bind fun leaf => read? path.relations leaf record

variable {relations others : List String} {leaf other : String} {value : Value}

theorem read?_of_fields (relations : List String) (leaf className className' : String) (fields : List (String × Value)) :
    read? relations leaf ⟨className, fields⟩ = read? relations leaf ⟨className', fields⟩ := by
  cases relations <;> rfl

theorem read?_empty (relations : List String) (leaf className : String) : read? relations leaf ⟨className, []⟩ = none := by
  cases relations <;> rfl

theorem read?_cons (relation : String) (rest : List String) (leaf className : String) (fields : List (String × Value)) :
    read? (relation :: rest) leaf ⟨className, fields⟩ = read? rest leaf ⟨relation, Fields.related relation fields⟩ := by
  rw [read?, nested?, get?, Fields.related]
  cases fields.lookup relation with
  | none => exact (read?_empty rest leaf relation).symm
  | some found =>
    cases found with
    | object className inner => exact read?_of_fields rest leaf className relation inner
    | _ => exact (read?_empty rest leaf relation).symm

theorem read?_put_self (relations : List String) (leaf className : String) (value : Value)
    (fields : List (String × Value)) :
    read? relations leaf ⟨className, Fields.put relations leaf value fields⟩ = some value := by
  induction relations generalizing className fields with
  | nil => exact Fields.lookup_set_self leaf value fields
  | cons relation rest ih => rw [Fields.put, read?_cons, Fields.related_set_self, ih]

/-- Placing a value changes no field but those before and behind the end of its path. -/
theorem read?_put_of_apart (h : ¬ relations ++ [leaf] <+: others ++ [other])
    (h' : ¬ others ++ [other] <+: relations ++ [leaf])
    (className : String) (value : Value) (fields : List (String × Value)) :
    read? others other ⟨className, Fields.put relations leaf value fields⟩ = read? others other ⟨className, fields⟩ := by
  -- one relation at a time: the paths part at this field, or both go on in the same related record
  induction relations generalizing others className fields with
  | nil =>
    rw [Fields.put]
    cases others with
    | nil =>
      have hne : other ≠ leaf := fun heq => h (by rw [heq])
      exact Fields.lookup_set_of_ne hne value fields
    | cons first others =>
      have hne : first ≠ leaf := fun heq => h (heq ▸ List.prefix_append [first] (others ++ [other]))
      rw [read?_cons, read?_cons, Fields.related_set_of_ne hne]
  | cons relation rest ih =>
    rw [Fields.put]
    cases others with
    | nil =>
      have hne : other ≠ relation := fun heq => h' (heq ▸ List.prefix_append [other] (rest ++ [leaf]))
      exact Fields.lookup_set_of_ne hne _ fields
    | cons first others =>
      rw [read?_cons, read?_cons]
      by_cases heq : first = relation
      · subst heq
        rw [List.cons_append, List.cons_append, List.cons_prefix_cons, and_iff_right rfl] at h h'
        rw [Fields.related_set_self, ih h h']
      · rw [Fields.related_set_of_ne heq]

theorem eq_of_read?_of_read? {record : Record} (hread : read? relations leaf record = some value)
    (hscalar : value.asRecord? = none) {found : Value} (hother : read? others other record = some found)
    (hstarts : relations ++ [leaf] <+: others ++ [other]) : relations ++ [leaf] = others ++ [other] := by
  induction relations generalizing others record with
  | nil =>
    cases others with
    | nil => exact hstarts.eq_of_length rfl
    | cons first others =>
      rw [List.nil_append, List.cons_append, List.cons_prefix_cons] at hstarts
      obtain ⟨rfl, -⟩ := hstarts
      rw [read?] at hread
      rw [read?] at hother
      rw [nested?, hread, Option.bind_some, hscalar] at hother
      cases hother
  | cons relation rest ih =>
    cases others with
    | nil =>
      rw [List.cons_append, List.nil_append, List.cons_prefix_cons, List.prefix_nil] at hstarts
      exact absurd hstarts.2 (List.append_ne_nil_of_right_ne_nil _ (List.cons_ne_nil _ _))
    | cons first others =>
      rw [List.cons_append, List.cons_append, List.cons_prefix_cons] at hstarts
      obtain ⟨rfl, hstarts⟩ := hstarts
      rw [read?] at hread
      rw [read?] at hother
      cases hnested : record.nested? relation with
      | none =>
        rw [hnested] at hread
        cases hread
      | some inner =>
        rw [hnested, Option.bind_some] at hread hother
        rw [List.cons_append, List.cons_append, ih hread hother hstarts]

end Record

/-- Neither of two paths starts with the other. -/
def FieldPath.Apart (path other : FieldPath) : Prop :=
  ¬ path.segments <+: other.segments ∧ ¬ other.segments <+: path.segments

theorem FieldPath.Apart.symm {path other : FieldPath} (h : path.Apart other) : other.Apart path :=
  ⟨h.2, h.1⟩

namespace Record

variable {placed : List (FieldPath × Value)} {path : FieldPath}

theorem at?_putAll_of_apart (h : ∀ entry ∈ placed, entry.1.Apart path) (className : String)
    (fields : List (String × Value)) :
    at? ⟨className, Fields.putAll placed fields⟩ path = at? ⟨className, fields⟩ path := by
  induction placed generalizing fields with
  | nil => rfl
  | cons entry placed ih =>
    obtain ⟨other, value⟩ := entry
    have hrest := ih fun entry hentry => h entry (List.mem_cons_of_mem _ hentry)
    rw [Fields.putAll]
    cases hleaf : other.leaf? with
    | none => exact hrest fields
    | some leaf =>
      apply (hrest _).trans
      obtain ⟨hother, hpath⟩ := h (other, value) List.mem_cons_self
      rw [at?, at?]
      cases hlast : path.leaf? with
      | none => rfl
      | some last =>
        rw [FieldPath.segments_eq hleaf, FieldPath.segments_eq hlast] at hother hpath
        exact read?_put_of_apart hother hpath className value fields

/-- Of columns whose paths are apart every one is found again. -/
theorem at?_putAll (hapart : placed.Pairwise fun a b => a.1.Apart b.1)
    (hleaf : ∀ entry ∈ placed, ∃ leaf, entry.1.leaf? = some leaf) (className : String) (fields : List (String × Value)) :
    ∀ entry ∈ placed, at? ⟨className, Fields.putAll placed fields⟩ entry.1 = some entry.2 := by
  induction placed generalizing fields with
  | nil => exact fun _ hentry => absurd hentry List.not_mem_nil
  | cons first placed ih =>
    obtain ⟨path, value⟩ := first
    obtain ⟨hfirst, hrest⟩ := List.pairwise_cons.1 hapart
    obtain ⟨leaf, hpath⟩ := hleaf (path, value) List.mem_cons_self
    intro entry hentry
    rw [Fields.putAll, hpath]
    rcases List.mem_cons.1 hentry with rfl | hentry
    · rw [at?_putAll_of_apart (fun other hother => (hfirst other hother).symm), at?, hpath]
      exact read?_put_self path.relations leaf className value fields
    · exact ih hrest (fun other hother => hleaf other (List.mem_cons_of_mem _ hother)) _ entry hentry

theorem eq_of_at?_of_at? {record : Record} {other : FieldPath} {value found : Value} (hpath : record.at? path = some value)
    (hscalar : value.asRecord? = none) (hother : record.at? other = some found)
    (hstarts : path.segments <+: other.segments) : path = other := by
  obtain ⟨leaf, hleaf, hread⟩ := Option.bind_eq_some_iff.1 hpath
  obtain ⟨last, hlast, hfound⟩ := Option.bind_eq_some_iff.1 hother
  rw [FieldPath.segments_eq hleaf, FieldPath.segments_eq hlast] at hstarts
  have hsegments := eq_of_read?_of_read? hread hscalar hfound hstarts
  rw [← FieldPath.segments_eq hleaf, ← FieldPath.segments_eq hlast] at hsegments
  cases path
  cases other
  exact congrArg FieldPath.mk hsegments

end Record

/-! ### Columns -/

/-- Whether a value is neither a record nor a list. -/
def Value.isScalar : Value → Bool
  | object _ _ => false
  | list _ => false
  | _ => true

theorem Value.asRecord?_of_isScalar {value : Value} (h : value.isScalar = true) : value.asRecord? = none := by
  cases value <;> first | rfl | cases h

namespace Cell

private theorem isScalar_of_orElse {α : Type} {found : String} {read : Option α} {value : α → Value} {result : Value}
    (hvalue : ∀ a, (value a).isScalar = true) (h : convertAs.orElse found (read.map value) = .ok result) :
    result.isScalar = true := by
  cases read with
  | none => cases h
  | some a =>
    cases h
    exact hvalue a

private theorem isScalar_of_asText {cell : Cell} {value : Value} (h : convertAs.asText cell = .ok value) :
    value.isScalar = true := by
  cases cell <;> cases h <;> rfl

private theorem isScalar_of_convertAs {fieldType : FieldType} {cell : Cell} {value : Value}
    (h : convertAs fieldType cell = .ok value) : value.isScalar = true := by
  rw [convertAs.eq_def] at h
  split at h
  -- what is read from a text or a number, the texts, what is refused, and what stays as it is
  case h_3 | h_4 | h_7 | h_9 => exact isScalar_of_orElse (fun _ => rfl) h
  case h_10 | h_11 | h_12 => exact isScalar_of_asText h
  case h_13 => cases h
  all_goals
    cases h
    rfl

theorem isScalar_of_convert {cell : Cell} {declared : Option FieldType} {field : String} {value : Value}
    (h : cell.convert declared field = .ok value) : value.isScalar = true := by
  rw [convert.eq_def] at h
  split at h
  · cases h
  · next decoded _ =>
    cases h
    cases decoded <;> rfl
  · split at h
    · next hconvert =>
      cases h
      exact isScalar_of_convertAs hconvert
    · cases h

theorem asRecord?_of_convert {cell : Cell} {declared : Option FieldType} {field : String} {value : Value}
    (h : cell.convert declared field = .ok value) : value.asRecord? = none :=
  Value.asRecord?_of_isScalar (isScalar_of_convert h)

end Cell

namespace Registry

variable {registry : Registry}

/-- The class that relations lead to. -/
def reach? (registry : Registry) : ClassType → List String → Option ClassType
  | owner, [] => some owner
  | _, relation :: rest => (registry.lookup? relation).bind fun target => reach? registry target rest

theorem exists_reach? {relations : List String} (h : ∀ relation ∈ relations, registry.contains relation = true)
    (owner : ClassType) : ∃ last, registry.reach? owner relations = some last := by
  induction relations generalizing owner with
  | nil => exact ⟨owner, rfl⟩
  | cons relation rest ih =>
    obtain ⟨target, htarget⟩ := Option.isSome_iff_exists.1 (h relation List.mem_cons_self)
    obtain ⟨last, hlast⟩ := ih (fun other hother => h other (List.mem_cons_of_mem _ hother)) target
    exact ⟨last, by rw [reach?, htarget, Option.bind_some, hlast]⟩

/-- The kind that the class reached by a path declares for its field. -/
def declared? (registry : Registry) (target : ClassType) (path : FieldPath) : Option FieldType :=
  (registry.reach? target path.relations).bind fun owner => path.leaf?.bind owner.fieldType?

/-- What the cell of a column becomes. -/
def columnValue (registry : Registry) (target : ClassType) (column : FieldPath × Cell) : Except ConversionError Value :=
  column.2.convert (registry.declared? target column.1) column.1.display

section Place

variable {owner last : ClassType} {relations : List String}

/-- Where relations lead to a class, the cell is converted as this class declares, and placed if that succeeds. -/
theorem place_of_reach? (hreach : registry.reach? owner relations = some last) (path : FieldPath) (leaf : String)
    (cell : Cell) (fields : List (String × Value)) :
    registry.place path leaf cell owner relations fields =
      match cell.convert (last.fieldType? leaf) path.display with
      | .ok value => .ok (Fields.put relations leaf value fields)
      | .error e => .error (.conversion e) := by
  induction relations generalizing owner fields with
  | nil =>
    cases hreach
    rfl
  | cons relation rest ih =>
    rw [reach?] at hreach
    cases hlookup : registry.lookup? relation with
    | none =>
      rw [hlookup] at hreach
      cases hreach
    | some target =>
      rw [hlookup, Option.bind_some] at hreach
      rw [place, resolveRelation, hlookup]
      change (registry.place path leaf cell target rest (Fields.related relation fields)).bind _ = _
      rw [ih hreach, name_of_lookup? hlookup]
      cases cell.convert (last.fieldType? leaf) path.display <;> rfl

theorem place_of_not_reach? (hreach : registry.reach? owner relations = none) (path : FieldPath) (leaf : String)
    (cell : Cell) (fields : List (String × Value)) :
    ∃ e, registry.place path leaf cell owner relations fields = .error (.compile e) := by
  induction relations generalizing owner fields with
  | nil => cases hreach
  | cons relation rest ih =>
    rw [reach?] at hreach
    rw [place, resolveRelation]
    cases hlookup : registry.lookup? relation with
    | none => exact ⟨_, rfl⟩
    | some target =>
      rw [hlookup, Option.bind_some] at hreach
      obtain ⟨e, he⟩ := ih hreach (Fields.related relation fields)
      exact ⟨e, bind_eq_error.2 (.inl he)⟩

end Place

theorem columnValue_eq {target last : ClassType} {path : FieldPath} {leaf : String} (hleaf : path.leaf? = some leaf)
    (hreach : registry.reach? target path.relations = some last) (cell : Cell) :
    registry.columnValue target (path, cell) = cell.convert (last.fieldType? leaf) path.display := by
  rw [columnValue, declared?, hreach, Option.bind_some, hleaf, Option.bind_some]

theorem placeColumns_eq {target : ClassType} {columns : List (FieldPath × Cell)} {values : List Value}
    (hpaths : ∀ column ∈ columns, ∃ leaf last, column.1.leaf? = some leaf ∧
      registry.reach? target column.1.relations = some last)
    (hvalues : List.Forall₂ (fun column value => registry.columnValue target column = .ok value) columns values)
    (index : Nat) (fields : List (String × Value)) :
    registry.placeColumns target index columns fields =
      .ok (Fields.putAll ((columns.map Prod.fst).zip values) fields) := by
  induction hvalues generalizing index fields with
  | nil => rfl
  | @cons column value columns values hvalue _ ih =>
    obtain ⟨path, cell⟩ := column
    obtain ⟨leaf, last, hleaf, hreach⟩ := hpaths (path, cell) List.mem_cons_self
    rw [columnValue_eq hleaf hreach] at hvalue
    rw [List.map_cons, List.zip_cons_cons, placeColumns, Fields.putAll, hleaf]
    change (registry.place path leaf cell target path.relations fields).bind _ = _
    rw [place_of_reach? hreach, hvalue]
    exact ih (fun column hcolumn => hpaths column (List.mem_cons_of_mem _ hcolumn)) (index + 1) _

/-- Every path has an end, and its relations lead to a class. -/
def Reached (registry : Registry) (target : ClassType) (projection : List FieldPath) : Prop :=
  ∀ path ∈ projection, ∃ leaf last, path.leaf? = some leaf ∧ registry.reach? target path.relations = some last

/-- A row becomes one record, with the values of its columns at the ends of the paths. -/
theorem materializeRow_eq {target : ClassType} {projection : List FieldPath} {row : Row} {values : List Value}
    (hpaths : registry.Reached target projection) (hwidth : row.length = projection.length)
    (hvalues : (projection.zip row).mapM (registry.columnValue target) = .ok values) :
    registry.materializeRow target projection row = .ok ⟨target.name, Fields.putAll (projection.zip values) []⟩ := by
  have hplaced := placeColumns_eq (fun column hcolumn => hpaths column.1 (List.of_mem_zip hcolumn).1)
    (forall₂_of_mapM hvalues) 0 []
  rw [List.map_fst_zip hwidth.ge] at hplaced
  rw [materializeRow, if_neg (not_not.2 hwidth), hplaced]
  rfl

theorem materialize_singleton {target : ClassType} {projection : List FieldPath} {row : Row} {values : List Value}
    (hpaths : registry.Reached target projection) (hwidth : row.length = projection.length)
    (hvalues : (projection.zip row).mapM (registry.columnValue target) = .ok values) :
    registry.materialize target projection [row] = .ok [⟨target.name, Fields.putAll (projection.zip values) []⟩] := by
  rw [materialize, List.mapM_cons, materializeRow_eq hpaths hwidth hvalues]
  rfl

end Registry

theorem CompiledQuery.Implements.reaches {compiled : CompiledQuery} {registry : Registry} {query : Query} {plan : Plan}
    (h : compiled.Implements registry query plan) : registry.Reached compiled.target compiled.projection := by
  intro path hpath
  rw [h.projection_eq] at hpath
  obtain ⟨item, -, leaf, hleaf, -, hknown, -⟩ := exists_of_mem_forall₂ h.items.flip hpath
  obtain ⟨last, hlast⟩ := Registry.exists_reach? (fun _ => h.sound.joins.contains_of_mem hknown) compiled.target
  exact ⟨leaf, last, hleaf, hlast⟩

/-- A compiled query makes one record of a row whose columns convert, and all columns are found again at the ends of their paths exactly if no selected path starts with another one. -/
theorem Query.columns_kept_iff {registry : Registry} {query : Query} {bindings : Bindings} {compiled : CompiledQuery}
    (h : query.compile registry bindings = .ok compiled) {row : Row} (hwidth : row.length = compiled.projection.length)
    {values : List Value}
    (hvalues : (compiled.projection.zip row).mapM (registry.columnValue compiled.target) = .ok values) :
    ∃ record, registry.materialize compiled.target compiled.projection [row] = .ok [record] ∧
      (List.Forall₂ (fun path value => record.at? path = some value) compiled.projection values ↔
        ∀ path ∈ compiled.projection, ∀ other ∈ compiled.projection, path.segments <+: other.segments → path = other) := by
  obtain ⟨plan, himplements⟩ := compile_spec h
  refine ⟨_, Registry.materialize_singleton himplements.reaches hwidth hvalues, ?_, fun hstarts => ?_⟩
  · -- the values are scalars, so nothing can be found behind one of them
    intro hkept path hpath other hother hstarts
    obtain ⟨value, hvalue, hread⟩ := exists_of_mem_forall₂ hkept.flip hpath
    obtain ⟨found, -, hfound⟩ := exists_of_mem_forall₂ hkept.flip hother
    obtain ⟨column, -, hconvert⟩ := exists_of_mem_forall₂ (forall₂_of_mapM hvalues) hvalue
    exact Record.eq_of_at?_of_at? hread (Cell.asRecord?_of_convert hconvert) hfound hstarts
  · have hnodup : compiled.projection.Nodup := himplements.projection_eq ▸ himplements.fields_nodup
    have hapart : compiled.projection.Pairwise FieldPath.Apart :=
      hnodup.pairwise_of_forall_ne fun path hpath other hother hne =>
        ⟨fun h => hne (hstarts path hpath other hother h), fun h => hne (hstarts other hother path hpath h).symm⟩
    have hlength : compiled.projection.length = values.length := by
      rw [← (forall₂_of_mapM hvalues).length_eq, List.length_zip, hwidth, min_self]
    have hplaced : (compiled.projection.zip values).Pairwise fun a b => a.1.Apart b.1 := by
      rw [← List.pairwise_map (f := Prod.fst), List.map_fst_zip hlength.le]
      exact hapart
    have hleaf : ∀ entry ∈ compiled.projection.zip values, ∃ leaf, entry.1.leaf? = some leaf := by
      intro entry hentry
      obtain ⟨leaf, -, hleaf, -⟩ := himplements.reaches entry.1 (List.of_mem_zip hentry).1
      exact ⟨leaf, hleaf⟩
    refine List.forall₂_iff_zip.2 ⟨hlength, fun {path value} hentry => ?_⟩
    exact Record.at?_putAll hplaced hleaf compiled.target.name [] (path, value) hentry

def accountRegistry : Registry := ⟨[.bare "Account", .bare "Contact"]⟩

/-- Contacts by paths of which two have a relation in common. -/
def accountQuery : Query :=
  .select "Contact" [⟨["Account", "Name"]⟩, ⟨["LastName"]⟩, ⟨["Account", "City"]⟩]

theorem account_columns_kept : ∃ compiled record, accountQuery.compile accountRegistry [] = .ok compiled ∧
    accountRegistry.materialize compiled.target compiled.projection [[.text "Acme", .text "Ito", .null]] = .ok [record] ∧
      List.Forall₂ (fun path value => record.at? path = some value) compiled.projection
        [.string "Acme", .string "Ito", .null] := by
  have hcompiled : accountQuery.compile accountRegistry [] = .ok _ := rfl
  have hvalues : (accountQuery.fields.zip [.text "Acme", .text "Ito", .null]).mapM
      (accountRegistry.columnValue (.bare "Contact")) = .ok [.string "Acme", .string "Ito", .null] := rfl
  obtain ⟨record, hrecord, hkept⟩ := Query.columns_kept_iff hcompiled (by rfl) hvalues
  exact ⟨_, record, hcompiled, hrecord, hkept.2 (by decide)⟩

/-- A field and a path through it can be selected together, and then whichever is placed first is lost. -/
theorem column_lost_behind_field :
    (∃ compiled record,
      (Query.select "Contact" [⟨["Account"]⟩, ⟨["Account", "Name"]⟩]).compile accountRegistry [] = .ok compiled ∧
      (compiled.projection.zip [.text "7", .text "Acme"]).mapM (accountRegistry.columnValue compiled.target) =
        .ok [.string "7", .string "Acme"] ∧
      accountRegistry.materialize compiled.target compiled.projection [[.text "7", .text "Acme"]] = .ok [record] ∧
      record.at? ⟨["Account"]⟩ = some (.object "Account" [("Name", .string "Acme")])) ∧
    (∃ compiled record,
      (Query.select "Contact" [⟨["Account", "Name"]⟩, ⟨["Account"]⟩]).compile accountRegistry [] = .ok compiled ∧
      (compiled.projection.zip [.text "Acme", .text "7"]).mapM (accountRegistry.columnValue compiled.target) =
        .ok [.string "Acme", .string "7"] ∧
      accountRegistry.materialize compiled.target compiled.projection [[.text "Acme", .text "7"]] = .ok [record] ∧
      record.at? ⟨["Account", "Name"]⟩ = none) :=
  ⟨⟨_, _, rfl, rfl, rfl, rfl⟩, ⟨_, _, rfl, rfl, rfl, rfl⟩⟩

end ObjectStore
